import ResourcePool.Proofs.Pool.Reservations
import ResourcePool.Proofs.Session.Steps

/-!
# Capacity

Whatever the clients and the factory do, the loans and the reservations of a key stay within the
limit, also while operations wait for the factory and others run inside its calls.

* `Progress.Continues`, `continues_resume` — an operation that began as a borrow of a key waits as
  one until it ends, and once it has begun it is not refused any more.
* `reachable_inOrder` — the pool of every reachable session fits the operations in progress.
* `capacity_kept` — the reservations are the borrows in progress, the limit holds, and a borrow is
  refused exactly at the limit, in which case it changes nothing but the count of refusals.
-/

set_option linter.unusedSectionVars false

namespace ResourcePool

variable {κ ω ε : Type} [DecidableEq κ]

/-! ## Operations that go on -/

/-- Where an operation stands that has begun with a given reservation, or with none: while it waits
it has that reservation still, and it does not end because a key is at capacity. -/
def Progress.Continues (own : Option (Checkout κ)) : Progress κ ω ε → Prop
  | waiting stage => stage.checkout? = own ∧ stage.outcome? ≠ some (.failed .atCapacity)
  | finished result => result ≠ .failed .atCapacity

namespace Pool

section continuing

variable (pool : Pool κ ω ε)

/-- An operation that waits with no result in sight. -/
theorem continues_await (stage : Stage κ ω ε) (unsettled : stage.outcome? = none) :
    (pool.await stage).2.Continues stage.checkout? := by
  refine ⟨rfl, ?_⟩
  rw [unsettled]
  exact nofun

/-- An operation that ends in any other way was not refused for its limit. -/
theorem continues_finish (own : Option (Checkout κ)) {result : Result ω ε}
    (ne : result ≠ .failed .atCapacity) : (pool.finish result).2.Continues own := ne

/-- A result that is known before a destroy is the result after it. -/
theorem continues_conclude (key : κ) (object : ω) {result : Result ω ε}
    (ne : result ≠ .failed .atCapacity) :
    (pool.destroyQuietly key object (.conclude result)).2.Continues none :=
  ⟨rfl, fun h => ne (Option.some.inj h)⟩

/-- A borrow with a reservation turns to fresh candidates with it. -/
theorem continues_tryFresh (checkout : Checkout κ) (attempt : Nat) :
    (pool.tryFresh checkout attempt).2.Continues (some checkout) := by
  unfold tryFresh
  split
  · exact pool.continues_await (.creating checkout attempt) rfl
  · exact continues_finish _ _ (by simp)

/-- It takes idle candidates with it. -/
theorem continues_tryIdle (checkout : Checkout κ) :
    (pool.tryIdle checkout).2.Continues (some checkout) := by
  unfold tryIdle
  split
  · next object store _ => exact continues_await _ (.activating checkout .idle object) rfl
  · exact pool.continues_tryFresh checkout 1

/-- It keeps it while a candidate is destroyed. -/
theorem continues_discard (checkout : Checkout κ) (origin : Origin) (object : ω) :
    (pool.discard checkout origin object).2.Continues (some checkout) := by
  have hawait := fun pool' : Pool κ ω ε => pool'.continues_await
    (.destroying checkout.key object (.quietly (.nextCandidate checkout origin))) rfl
  cases origin with
  | idle => exact hawait _
  | fresh attempt => exact hawait _

/-- It keeps it until a candidate is lent. -/
theorem continues_afterActivation (checkout : Checkout κ) (origin : Origin) (object : ω) :
    (pool.afterActivation checkout origin object).2.Continues (some checkout) := by
  unfold afterActivation
  split
  · exact pool.continues_await (.validating checkout origin object) rfl
  · exact continues_finish _ _ (by simp)

/-- Settling a loan is never refused for the limit. -/
theorem continues_settle (key : κ) (slot : SlotId) (object : ω) :
    (pool.settle key slot object).2.Continues none := by
  unfold settle
  split
  · exact continues_finish _ _ (by simp)
  · exact continues_conclude _ key _ (by simp)
  · exact continues_conclude _ key _ (by simp)

/-- Neither is an addition. -/
theorem continues_addMore (key : κ) (left : Nat) : (pool.addMore key left).2.Continues none := by
  cases left with
  | zero => exact continues_finish _ _ (by simp)
  | succ left =>
    simp only [addMore]
    split
    · exact continues_finish _ _ (by simp)
    · exact pool.continues_await (.making key left) rfl

/-- Nor is keeping a fresh resource. -/
theorem continues_park (key : κ) (left : Nat) (object : ω) :
    (pool.park key left object).2.Continues none := by
  unfold park
  split
  · exact continues_addMore _ key left
  · exact continues_conclude _ key _ (by simp)
  · next object _ _ _ =>
    exact continues_await _ (.destroying key object (.quietly (.addMore left))) rfl

/-- Destroying one after another ends with the result that was given. -/
theorem continues_sweep (objects : List (κ × ω)) {result : Result ω ε}
    (ne : result ≠ .failed .atCapacity) : (pool.sweep objects result).2.Continues none := by
  cases objects with
  | nil => exact pool.continues_finish _ ne
  | cons entry rest => exact ⟨rfl, fun h => ne (Option.some.inj h)⟩

/-- So does clearing. -/
theorem continues_clear {result : Result ω ε} (ne : result ≠ .failed .atCapacity) :
    (pool.clear result).2.Continues none := by
  obtain ⟨notes, heq⟩ := clear_eq pool result
  rw [heq]
  exact continues_sweep _ _ ne

/-- And so does closing. -/
theorem continues_close {result : Result ω ε} (ne : result ≠ .failed .atCapacity) :
    (pool.close result).2.Continues none := by
  unfold close
  split
  · exact pool.continues_finish _ ne
  · exact continues_clear _ ne

/-- A return is never refused for the limit. -/
theorem continues_giveBack (key : κ) (object : ω) :
    (pool.giveBack key object).2.Continues none := by
  have hreject : (pool.rejectUnborrowed key object).2.Continues none :=
    continues_conclude _ key object (by simp)
  unfold giveBack
  split
  · exact hreject
  · next slot _ =>
    split
    · exact hreject
    split
    · exact continues_conclude _ key object (by simp)
    split
    · exact pool.continues_await (.inspecting key slot object) rfl
    · exact pool.continues_await (.passivating key slot object) rfl

/-- Only a borrow begins with a reservation, and only a borrow can be refused at its start. -/
theorem continues_start {operation : Operation κ ω} (other : ∀ key, operation ≠ .borrow key) :
    (pool.start operation).2.Continues none := by
  cases operation with
  | borrow key => exact absurd rfl (other key)
  | giveBack key object => exact pool.continues_giveBack key object
  | invalidate key object =>
    exact continues_await _ (.destroying key object .surfaceIfOpen) rfl
  | prefill key count => exact pool.continues_addMore key count
  | clearKey key =>
    obtain ⟨notes, heq⟩ := clearKey_eq pool key
    show (pool.clearKey key).2.Continues none
    rw [heq]
    exact continues_sweep _ _ (by simp)
  | clear => exact pool.continues_clear (by simp)
  | close => exact pool.continues_close (by simp)

/-- After a destroy a borrow goes on with the reservation that it had. -/
theorem continues_proceed (key : κ) {sequel : Sequel κ ω ε}
    (admitted : sequel.outcome? ≠ some (.failed .atCapacity)) :
    (pool.proceed key sequel).2.Continues sequel.checkout? := by
  cases sequel with
  | nextCandidate checkout origin =>
    cases origin with
    | idle => exact pool.continues_tryIdle checkout
    | fresh attempt => exact pool.continues_tryFresh checkout _
  | unwind checkout reason => exact continues_finish _ _ (by simp)
  | conclude result => exact continues_finish _ _ fun h => admitted (congrArg some h)
  | sweep rest result => exact pool.continues_sweep rest fun h => admitted (congrArg some h)
  | addMore left => exact pool.continues_addMore key left

/-- **An operation goes on as it began**, whatever the answers it gets: a borrow waits as a borrow
of its key, no other operation turns into one, and none is refused. -/
theorem continues_resume {stage : Stage κ ω ε}
    (admitted : stage.outcome? ≠ some (.failed .atCapacity)) (answer : Answer ω ε) :
    (pool.resume stage answer).2.Continues stage.checkout? := by
  cases stage with
  | creating checkout attempt =>
    have hactivate := fun object pool' => continues_await (pool' : Pool κ ω ε)
      (.activating checkout (.fresh attempt) object) rfl
    cases answer with
    | done object => exact hactivate object _
    | refused object => exact hactivate object _
    | failed error => exact continues_finish _ _ (by simp)
    | panicked reason => exact continues_finish _ _ (by simp)
  | activating checkout origin object =>
    cases answer with
    | done object => exact pool.continues_afterActivation checkout origin object
    | refused object => exact pool.continues_afterActivation checkout origin object
    | failed error => exact continues_discard _ checkout origin object
    | panicked reason =>
      exact continues_await _ (.destroying checkout.key object (.quietly (.unwind checkout reason)))
        rfl
  | validating checkout origin object =>
    cases answer with
    | done _ => exact continues_finish _ _ (by simp)
    | refused _ => exact continues_discard _ checkout origin object
    | failed error => exact continues_discard _ checkout origin object
    | panicked reason =>
      exact continues_await _ (.destroying checkout.key object (.quietly (.unwind checkout reason)))
        rfl
  | inspecting key slot object =>
    cases answer with
    | done _ => exact continues_await _ (.passivating key slot object) rfl
    | panicked reason => exact continues_finish _ _ (by simp)
    | _ => exact continues_await _ (.destroying key object .surface) rfl
  | passivating key slot object =>
    cases answer with
    | done object => exact pool.continues_settle key slot object
    | refused object => exact pool.continues_settle key slot object
    | failed error => exact continues_await _ (.destroying key object .surface) rfl
    | panicked reason => exact continues_finish _ _ (by simp)
  | making key left =>
    have hpassivate := fun object pool' => continues_await (pool' : Pool κ ω ε)
      (.parking key left object) rfl
    cases answer with
    | done object => exact hpassivate object _
    | refused object => exact hpassivate object _
    | failed error => exact continues_finish _ _ (by simp)
    | panicked reason => exact continues_finish _ _ (by simp)
  | parking key left object =>
    cases answer with
    | done object => exact pool.continues_park key left object
    | refused object => exact pool.continues_park key left object
    | failed error => exact continues_conclude _ key object (by simp)
    | panicked reason => exact continues_finish _ _ (by simp)
  | destroying key object aftermath =>
    cases aftermath with
    | quietly sequel =>
      cases answer with
      | done _ => exact pool.continues_proceed key admitted
      | refused _ => exact pool.continues_proceed key admitted
      | failed error => exact continues_proceed ((pool.count _).note _) key admitted
      | panicked reason => cases sequel <;> exact continues_finish _ _ (by simp)
    | surface => cases answer <;> exact continues_finish _ _ (by simp)
    | surfaceIfOpen =>
      cases answer with
      | failed error =>
        show ((pool.count .destroyFailures).afterDestroyFailure key error
          .surfaceIfOpen).2.Continues none
        simp only [afterDestroyFailure]
        split
        · exact continues_finish _ _ (by simp)
        · exact continues_finish _ _ (by simp)
      | _ => exact continues_finish _ _ (by simp)

end continuing

/-! ## Borrows at the limit -/

/-- **A borrow on an open pool**: at the limit it is refused, with nothing changed but the count of
refusals and perhaps one more empty slot; below the limit it begins with a reservation. -/
theorem borrow_cases (pool : Pool κ ω ε) (sound : pool.store.Sound) (key : κ)
    (isOpen : pool.isClosed = false) :
    (Store.isAtLimit pool.config.activeLimit (pool.store.live key) = true ∧
      ∃ store, pool.store.Becomes store pool.store.live ∧ pool.borrow key =
        (({ pool with store := store } : Pool κ ω ε).count .refusals).fail .atCapacity) ∨
    (Store.isAtLimit pool.config.activeLimit (pool.store.live key) = false ∧
      ∃ slot, (pool.borrow key).2.Continues (some ⟨key, slot⟩)) := by
  unfold borrow
  rw [isOpen]
  rcases Store.reserve_cases sound key pool.config.activeLimit with
    ⟨hlimit, hnone, hbecomes⟩ | ⟨hlimit, id, hsome, -, -⟩
  · generalize pool.store.reserve key pool.config.activeLimit = pass at hnone hbecomes
    obtain ⟨found, next⟩ := pass
    cases hnone
    exact .inl ⟨hlimit, next, hbecomes, rfl⟩
  · generalize pool.store.reserve key pool.config.activeLimit = pass at hsome
    obtain ⟨found, next⟩ := pass
    cases hsome
    exact .inr ⟨hlimit, id, continues_tryIdle _ _⟩

/-- An operation goes on after its start, unless it is a borrow that is refused. -/
theorem start_cases (pool : Pool κ ω ε) (sound : pool.store.Sound) (operation : Operation κ ω) :
    (∃ own, (∀ checkout, own = some checkout → operation = .borrow checkout.key) ∧
      (pool.start operation).2.Continues own) ∨
    (∃ key next, operation = .borrow key ∧ pool.start operation = fail next .atCapacity) := by
  cases operation with
  | borrow key =>
    cases hclosed : pool.isClosed with
    | true =>
      refine .inl ⟨none, nofun, ?_⟩
      show (pool.borrow key).2.Continues none
      unfold borrow
      rw [hclosed]
      exact continues_finish pool none (by simp)
    | false =>
      rcases pool.borrow_cases sound key hclosed with ⟨-, store, -, heq⟩ | ⟨-, slot, hcontinues⟩
      · exact .inr ⟨key, _, rfl, heq⟩
      · refine .inl ⟨some ⟨key, slot⟩, ?_, hcontinues⟩
        intro checkout h
        cases h
        rfl
  | _ => exact .inl ⟨none, nofun, pool.continues_start (by simp)⟩

end Pool

/-! ## Sessions -/

namespace Session

/-- The stages of the operations in progress, the innermost first. -/
def stages (session : Session κ ω ε) : List (Stage κ ω ε) :=
  session.running.map fun activity => activity.stage

/-- How many borrows of a key are in progress. -/
def borrows (session : Session κ ω ε) (key : κ) : Nat :=
  session.running.countP fun activity => activity.stage.borrows key

/-- The borrows in progress under a key are counted by the stages. -/
theorem borrows_eq (session : Session κ ω ε) (key : κ) :
    session.borrows key = session.stages.countP (Stage.borrows key) := by
  unfold borrows stages
  rw [List.countP_map]
  rfl

/-- **A session in order**: the pool fits the operations in progress, and none of them is about to
be refused. -/
structure InOrder (config : Config) (session : Session κ ω ε) : Prop where
  config_eq : session.pool.config = config
  orderly : Pool.Orderly session.pool session.stages
  admitted : ∀ stage ∈ session.stages, stage.outcome? ≠ some (.failed .atCapacity)

/-- A reply that tells of no refusal. -/
def Unrefused (reply : Option (Reply ω ε)) : Prop :=
  reply ≠ some (.result (.failed .atCapacity))

section ends

variable {config : Config} {session : Session κ ω ε}

/-- Order is about the pool and the operations in progress alone. -/
theorem InOrder.congr (inOrder : InOrder config session) {next : Session κ ω ε}
    (pool_eq : next.pool = session.pool) (running_eq : next.running = session.running) :
    InOrder config next := by
  have hstages : next.stages = session.stages := by simp only [stages, running_eq]
  refine ⟨?_, ?_, ?_⟩
  · rw [pool_eq]
    exact inOrder.config_eq
  · rw [pool_eq, hstages]
    exact inOrder.orderly
  · rw [hstages]
    exact inOrder.admitted

/-- Notes are nothing to the order. -/
theorem InOrder.note (inOrder : InOrder config session) (entry : Note κ ε) :
    InOrder config { session with pool := session.pool.note entry } :=
  ⟨inOrder.config_eq, ⟨inOrder.orderly.sound, inOrder.orderly.inFlight_eq,
    inOrder.orderly.linked, inOrder.orderly.stands, inOrder.orderly.capacity⟩, inOrder.admitted⟩

/-- Closing a pool that is at rest leaves a session in order. -/
theorem InOrder.closing (inOrder : InOrder config session) (none' : session.running = [])
    {result : Result ω ε} (ne : result ≠ .failed .atCapacity) :
    InOrder config (session.closing (session.pool.close result)).1 ∧
      Unrefused (session.closing (session.pool.close result)).2 := by
  have hstages : session.stages = [] := by simp [stages, none']
  have horderly := inOrder.orderly
  rw [hstages] at horderly
  have hsteady := Pool.steady_close session.pool horderly.sound result
  have hturn := Pool.Orderly.turn [] horderly (fun _ => rfl) hsteady
  have hcontinues := Pool.continues_close session.pool ne
  have hconfig := hsteady.config_eq.trans inOrder.config_eq
  generalize session.pool.close result = turn at hturn hcontinues hconfig
  obtain ⟨pool, progress⟩ := turn
  cases progress with
  | waiting stage =>
    refine ⟨⟨hconfig, hturn, ?_⟩, nofun⟩
    intro waiting hwaiting
    cases List.mem_singleton.mp hwaiting
    exact hcontinues.2
  | finished final =>
    have hsame : (session.closing (pool, .finished final)).1.stages = [] := hstages
    refine ⟨⟨hconfig, ?_, ?_⟩, fun h => hcontinues ?_⟩
    · rw [hsame]
      exact hturn
    · intro waiting hwaiting
      rw [hsame] at hwaiting
      cases hwaiting
    · injection h with h
      injection h

/-- So does an operation that lets go of the pool. -/
theorem InOrder.depart (inOrder : InOrder config session) {result : Result ω ε}
    (ne : result ≠ .failed .atCapacity) :
    InOrder config (session.depart result).1 ∧ Unrefused (session.depart result).2 := by
  rcases session.depart_cases result with ⟨-, heq⟩ | ⟨-, -, hnone, heq⟩
  · rw [heq]
    refine ⟨inOrder, fun h => ne ?_⟩
    injection h with h
    injection h
  · rw [heq]
    exact inOrder.closing hnone ne

/-- So does handing a reply over. -/
theorem InOrder.conclude (inOrder : InOrder config session) (purpose : Purpose κ)
    {result : Result ω ε} (ne : result ≠ .failed .atCapacity) :
    InOrder config (session.conclude purpose result).1 ∧
      Unrefused (session.conclude purpose result).2 := by
  rcases session.conclude_cases purpose result with
    ⟨key, object, -, -, heq⟩ | ⟨key, error, -, -, heq⟩ | ⟨-, heq⟩
  · rw [heq]
    exact ⟨inOrder.congr rfl rfl, nofun⟩
  · rw [heq]
    exact (inOrder.note _).depart (by simp)
  · rw [heq]
    exact inOrder.depart ne

variable (session) in
/-- A turn that leaves the pool fitting the operations leaves the session in order. -/
theorem InOrder.advance (purpose : Purpose κ) {turn : Pool.Turn κ ω ε}
    {own : Option (Checkout κ)} (config_eq : turn.1.config = config)
    (orderly : Pool.Orderly turn.1 (turn.2.stages ++ session.stages))
    (admitted : ∀ stage ∈ session.stages, stage.outcome? ≠ some (.failed .atCapacity))
    (continues : turn.2.Continues own) :
    InOrder config (session.advance purpose turn).1 ∧
      Unrefused (session.advance purpose turn).2 := by
  obtain ⟨pool, progress⟩ := turn
  cases progress with
  | waiting stage =>
    refine ⟨⟨config_eq, orderly, ?_⟩, nofun⟩
    intro waiting hwaiting
    rcases List.mem_cons.mp hwaiting with rfl | hrest
    · exact continues.2
    · exact admitted waiting hrest
  | finished result =>
    rw [advance_finished]
    have hinOrder : InOrder config { session with pool := pool } := ⟨config_eq, orderly, admitted⟩
    exact hinOrder.conclude purpose continues

/-- With a handle left, an operation may end in any way. -/
theorem InOrder.conclude_of_handles (inOrder : InOrder config session)
    (handles : session.handles ≠ 0) (purpose : Purpose κ) (result : Result ω ε) :
    InOrder config (session.conclude purpose result).1 := by
  rcases session.conclude_cases purpose result with
    ⟨key, object, -, -, heq⟩ | ⟨key, error, -, -, heq⟩ | ⟨-, heq⟩
  · rw [heq]
    exact inOrder.congr rfl rfl
  · have htold := depart_of_handles
      { session with pool := session.pool.note (.returnFailed key error) } handles .done
    rw [heq, htold]
    exact inOrder.note _
  · rw [heq, depart_of_handles _ handles]
    exact inOrder

end ends

section steps

variable {config : Config} {session next : Session κ ω ε} {reply : Option (Reply ω ε)}

/-- An operation can start at any time; a borrow, which may be refused, needs a handle. -/
theorem InOrder.start (inOrder : InOrder config session) (purpose : Purpose κ)
    (operation : Operation κ ω)
    (handled : session.handles ≠ 0 ∨ ∀ key, operation ≠ .borrow key) :
    InOrder config (session.advance purpose (session.pool.start operation)).1 := by
  have hsound := inOrder.orderly.sound
  have hsteady := Pool.steady_start session.pool hsound operation
  have horderly := inOrder.orderly.start operation
  have hconfig := hsteady.config_eq.trans inOrder.config_eq
  rcases session.pool.start_cases hsound operation with
    ⟨own, -, hcontinues⟩ | ⟨key, pool, hborrow, heq⟩
  · exact (InOrder.advance session purpose hconfig horderly inOrder.admitted hcontinues).1
  · have hhandles := handled.resolve_right fun h => h key hborrow
    rw [heq] at horderly hconfig ⊢
    have hinOrder : InOrder config { session with pool := pool } :=
      ⟨hconfig, horderly, inOrder.admitted⟩
    exact hinOrder.conclude_of_handles hhandles purpose _

/-- An action leaves a session in order. -/
theorem InOrder.act (inOrder : InOrder config session) {action : Action κ ω}
    {outcome : Session κ ω ε × Option (Reply ω ε)} (acts : session.Acts action outcome) :
    InOrder config outcome.1 := by
  cases acts with
  | call handled => exact inOrder.start _ _ (.inl handled)
  | get handled => exact inOrder.start _ _ (.inl handled)
  | @spend action id guard purpose operation there spends =>
    have hbase : InOrder config (session.removeGuard id) := inOrder.congr rfl rfl
    refine hbase.start purpose operation (.inr ?_)
    rintro key rfl
    cases action <;> cases spends
  | touch there => exact inOrder.congr rfl rfl
  | cloneHandle => exact inOrder.congr rfl rfl
  | dropHandle =>
    have hbase : InOrder config { session with handles := session.handles - 1 } :=
      inOrder.congr rfl rfl
    exact (hbase.depart (by simp)).1

/-- An answer of the factory leaves a session in order, and is no refusal for the limit. -/
theorem InOrder.answer (inOrder : InOrder config session) {answer : Answer ω ε}
    (h : session.answer? answer = some (next, reply)) :
    InOrder config next ∧ Unrefused reply := by
  obtain ⟨activity, rest, hrunning, heq⟩ := answer?_cases h
  have hstages : session.stages = activity.stage :: rest.map fun activity => activity.stage := by
    simp [stages, hrunning]
  have horderly := inOrder.orderly
  have hadmitted := inOrder.admitted
  rw [hstages] at horderly hadmitted
  have hmem : activity.stage ∈ activity.stage :: rest.map fun activity => activity.stage :=
    List.mem_cons_self
  have hsteady := Pool.steady_resume session.pool horderly.sound activity.stage
    (horderly.holds hmem) (horderly.stands _ hmem) answer
  have hcontinues := Pool.continues_resume session.pool (hadmitted _ hmem) answer
  have hadvance := InOrder.advance { session with running := rest } activity.purpose
    (hsteady.config_eq.trans inOrder.config_eq) (horderly.resume answer)
    (fun stage hstage => hadmitted stage (List.mem_cons_of_mem _ hstage)) hcontinues
  rw [← heq] at hadvance
  exact hadvance

/-- **Every reachable session is in order.** -/
theorem reachable_inOrder (reachable : Reachable config session) : InOrder config session := by
  induction reachable with
  | create walk =>
    have hempty : Pool.Orderly (.empty config walk : Pool κ ω ε) [] :=
      Pool.orderly_empty config walk
    exact ⟨rfl, hempty, fun _ h => nomatch h⟩
  | @step session next event reply _ hstep ih =>
    cases event with
    | act action => exact ih.act (acts_of_act? hstep)
    | answer answer => exact (ih.answer hstep).1

end steps

/-! ## The limit of a key -/

/-- Two pools with the same loans, idle resources and reservations under every key. -/
def SameCounts (before after : Pool κ ω ε) : Prop :=
  ∀ key, after.numActive key = before.numActive key ∧ after.numIdle key = before.numIdle key ∧
    after.store.numInFlight key = before.store.numInFlight key

/-- A store that becomes what it was shows the same counts. -/
theorem sameCounts_of_becomes {before after : Pool κ ω ε}
    (becomes : before.store.Becomes after.store before.store.live) : SameCounts before after := by
  intro key
  have hlive := becomes.live_eq key
  refine ⟨?_, ?_, ?_⟩
  · unfold Pool.numActive
    rw [Store.numActive_eq, Store.numActive_eq, hlive]
  · unfold Pool.numIdle
    rw [Store.numIdle_eq, Store.numIdle_eq, hlive]
  · unfold Store.numInFlight
    rw [hlive]

section limit

variable {config : Config} {session : Session κ ω ε}

/-- The reservations of a key are its borrows in progress. -/
theorem InOrder.numInFlight_eq (inOrder : InOrder config session) (key : κ) :
    session.pool.store.numInFlight key = session.borrows key := by
  rw [borrows_eq]
  exact inOrder.orderly.inFlight_eq key

/-- A client that asks for a resource while it has a handle. -/
theorem act?_borrow (handled : session.handles ≠ 0) {key : κ} {action : Action κ ω}
    (asks : action = .call (.borrow key) ∨ action = .get key) :
    ∃ purpose, (∀ key, purpose ≠ .dropping key) ∧
      session.act? action = some (session.advance purpose (session.pool.borrow key)) := by
  rcases asks with rfl | rfl
  · refine ⟨.plain, by simp, ?_⟩
    simp only [act?, if_neg handled]
    rfl
  · refine ⟨.guarding key, by simp, ?_⟩
    simp only [act?, if_neg handled]

/-- A refusal goes straight to the client. -/
theorem advance_refused (handled : session.handles ≠ 0) {purpose : Purpose κ}
    (ne : ∀ key, purpose ≠ .dropping key) (pool : Pool κ ω ε) :
    session.advance purpose (pool.fail .atCapacity) =
      ({ session with pool := pool }, some (.result (.failed .atCapacity))) := by
  have htold := depart_of_handles { session with pool := pool } handled (.failed .atCapacity)
  cases purpose with
  | plain => exact htold
  | guarding key => exact htold
  | dropping key => exact absurd rfl (ne key)

/-- **The limit of a key is kept**, by any clients, with any factory and in the middle of any
operations. The reservations of the key are the borrows in progress; together with the loans they
stay within the limit; a borrow on the open pool is refused exactly when they have reached it, and
then nothing is asked of the factory and only the count of refusals changes. No operation is refused
after its start. -/
theorem capacity_kept {limit : Nat} (limited : config.activeLimit = some limit)
    (reachable : Reachable config session) (key : κ) :
    session.pool.store.numInFlight key = session.borrows key ∧
    session.pool.numActive key + session.borrows key ≤ limit ∧
    (∀ action, action = .call (.borrow key) ∨ action = .get key → session.handles ≠ 0 →
      session.pool.isClosed = false → ∃ next reply, session.act? action = some (next, reply) ∧
        (reply = some (.result (.failed .atCapacity)) ↔
          limit ≤ session.pool.numActive key + session.borrows key) ∧
        (reply = some (.result (.failed .atCapacity)) →
          next.running = session.running ∧ SameCounts session.pool next.pool ∧
          next.pool.tally.get .refusals = session.pool.tally.get .refusals + 1)) ∧
    (∀ answer next reply, session.answer? answer = some (next, reply) →
      reply ≠ some (.result (.failed .atCapacity))) := by
  have hinOrder := reachable_inOrder reachable
  have hinFlight := hinOrder.numInFlight_eq key
  have hconfig : session.pool.config.activeLimit = some limit := by
    rw [hinOrder.config_eq, limited]
  have hactive : session.pool.numActive key = (session.pool.store.live key).active :=
    Store.numActive_eq session.pool.store key
  have hreserved : (session.pool.store.live key).inFlight = session.borrows key := hinFlight
  refine ⟨hinFlight, ?_, ?_, ?_⟩
  · rw [hactive, ← hreserved]
    exact hinOrder.orderly.capacity key limit hconfig
  · intro action hasks hhandles hopen
    obtain ⟨purpose, hpurpose, hact⟩ := act?_borrow hhandles hasks
    have hlimit : Store.isAtLimit session.pool.config.activeLimit (session.pool.store.live key) =
        true ↔ limit ≤ session.pool.numActive key + session.borrows key := by
      rw [hconfig, hactive, ← hreserved]
      exact decide_eq_true_iff
    rcases session.pool.borrow_cases hinOrder.orderly.sound key hopen with
      ⟨hfull, store, hbecomes, heq⟩ | ⟨hroom, slot, hcontinues⟩
    · rw [heq, advance_refused hhandles hpurpose] at hact
      refine ⟨_, _, hact, iff_of_true rfl (hlimit.mp hfull), fun _ => ⟨rfl, ?_, ?_⟩⟩
      · exact sameCounts_of_becomes hbecomes
      · rfl
    · have hunrefused := (InOrder.advance session purpose
        ((Pool.steady_borrow session.pool hinOrder.orderly.sound key).config_eq.trans
          hinOrder.config_eq)
        (hinOrder.orderly.start (.borrow key)) hinOrder.admitted hcontinues).2
      refine ⟨_, _, hact, iff_of_false hunrefused ?_, fun h => absurd h hunrefused⟩
      intro hle
      rw [hlimit.mpr hle] at hroom
      cases hroom
  · intro answer next reply hanswer
    exact (hinOrder.answer hanswer).2

/-- With a limit of one, a second borrow from inside the first is refused. -/
theorem capacity_kept_inside_borrow : ∃ session next : Session Nat Nat String,
    Reachable (Config.standard.withMaxActive 1) session ∧
    session.pool.store.numInFlight 0 = 1 ∧
    session.act? (.call (.borrow 0)) = some (next, some (.result (.failed .atCapacity))) ∧
    SameCounts session.pool next.pool := by
  have hfits : ∀ outcome ∈ (create (Config.standard.withMaxActive 1) .linking :
      Session Nat Nat String).step? (.act (.call (.borrow 0))),
      outcome.1.borrows 0 = 1 ∧ outcome.1.handles ≠ 0 ∧ outcome.1.pool.isClosed = false := by
    decide +kernel
  have hplays : ((create (Config.standard.withMaxActive 1) .linking :
      Session Nat Nat String).step? (.act (.call (.borrow 0)))).isSome = true := by
    decide +kernel
  obtain ⟨⟨session, reply⟩, hstep⟩ := Option.isSome_iff_exists.mp hplays
  obtain ⟨hborrows, hhandles, hopen⟩ := hfits _ hstep
  have hreachable := (Reachable.create .linking).step hstep
  have hlimit : (Config.standard.withMaxActive 1).activeLimit = some 1 := by
    decide +kernel
  obtain ⟨hreserved, -, hrefused, -⟩ := capacity_kept hlimit hreachable 0
  obtain ⟨next, told, hact, hiff, hquiet⟩ := hrefused _ (.inl rfl) hhandles hopen
  have hfull : told = some (.result (.failed .atCapacity)) := by
    apply hiff.mpr
    rw [hborrows]
    exact Nat.le_add_left _ _
  refine ⟨session, next, hreachable, hreserved.trans hborrows, ?_, (hquiet hfull).2.1⟩
  rw [hact, hfull]

end limit

end Session

end ResourcePool
