import Mathlib.Data.Set.Card
import ResourcePool.Proofs.Pool.Upkeep
import ResourcePool.Proofs.Session.Accounting

/-!
# Keys in use

Which keys a pool keeps between operations. Every key in use is kept, and a key that is not in use
is kept only by an operation that opens a slot before it knows whether it needs one, and does not
unlink it again: a borrow under a limit of zero, and an addition that finds the pool closed or may
not keep a single resource.

* `Session.strays` — the keys that an event leaves with an empty slot.
* `tended_step` — no other key gets an empty slot by an event, a closed pool stays closed, and
  nothing becomes idle in it.
* `kept_keys_in_use` — which keys are kept, and how many.
-/

set_option linter.unusedSectionVars false

namespace ResourcePool

variable {κ ω ε : Type} [DecidableEq κ]

namespace Session

/-- The keys that an event leaves with an empty slot. -/
def strays (session : Session κ ω ε) : Event κ ω ε → List κ
  | .act action => (session.operation? action).toList.flatMap fun operation =>
    operation.strays session.pool
  | .answer answer => session.running.head?.toList.flatMap fun activity =>
    activity.stage.strays session.pool answer

/-! ## Upkeep of a session -/

section ends

variable (session : Session κ ω ε)

/-- An operation that lets go of the pool strands no key. -/
theorem tended_depart (sound : session.pool.store.Sound) (result : Result ω ε) :
    Store.Tended [] session.pool.store (session.depart result).1.pool.store := by
  rcases session.depart_cases result with ⟨-, heq⟩ | ⟨-, -, -, heq⟩
  · rw [heq]
    exact .refl _ _
  · rw [heq]
    have hclose := session.pool.tended_close sound result
    generalize session.pool.close result = turn at hclose
    obtain ⟨pool, progress⟩ := turn
    cases progress <;> exact hclose

/-- Neither does handing a reply over. -/
theorem tended_conclude (sound : session.pool.store.Sound) (purpose : Purpose κ)
    (result : Result ω ε) :
    Store.Tended [] session.pool.store (session.conclude purpose result).1.pool.store := by
  rcases session.conclude_cases purpose result with
    ⟨key, object, -, -, heq⟩ | ⟨key, error, -, -, heq⟩ | ⟨-, heq⟩
  · rw [heq]
    exact .refl _ _
  · rw [heq]
    exact tended_depart { session with pool := session.pool.note (.returnFailed key error) } sound _
  · rw [heq]
    exact session.tended_depart sound result

/-- Taking a turn over adds at most the closing of the pool to it. -/
theorem tended_advance (purpose : Purpose κ) {turn : Pool.Turn κ ω ε}
    (sound : turn.1.store.Sound) :
    Store.Tended [] turn.1.store (session.advance purpose turn).1.pool.store := by
  obtain ⟨pool, progress⟩ := turn
  cases progress with
  | waiting stage => exact .refl _ _
  | finished result => exact tended_conclude { session with pool := pool } sound purpose result

end ends

section steps

variable {config : Config} {session next : Session κ ω ε} {reply : Option (Reply ω ε)}

/-- The start of an operation and what its end, if it comes at once, brings with it. -/
theorem tended_started (sound : session.pool.store.Sound) (base : Session κ ω ε)
    (purpose : Purpose κ) (operation : Operation κ ω) :
    Store.Tended (operation.strays session.pool) session.pool.store
      (base.advance purpose (session.pool.start operation)).1.pool.store := by
  have hstart := session.pool.tended_start sound operation
  have hsound := (session.pool.steady_start sound operation).becomes.sound
  exact hstart.trans (.of_nil (base.tended_advance purpose hsound))

/-- An action strands no keys but those that its operation does. -/
theorem tended_act (sound : session.pool.store.Sound) {action : Action κ ω}
    {outcome : Session κ ω ε × Option (Reply ω ε)} (h : session.act? action = some outcome) :
    Store.Tended (session.strays (.act action)) session.pool.store outcome.1.pool.store := by
  cases hoperation : session.operation? action with
  | some operation =>
    obtain ⟨base, purpose, -, -, -, heq⟩ := act?_of_operation? hoperation
    have hstarted := tended_started sound base purpose operation
    rw [heq, Option.some.injEq] at h
    rw [h] at hstarted
    simpa [strays, hoperation] using hstarted
  | none =>
    apply Store.Tended.of_nil
    cases acts_of_act? h with
    | call handled => simp [operation?, handled] at hoperation
    | get handled => simp [operation?, handled] at hoperation
    | spend there spends =>
      -- what uses up a guard starts an operation
      cases action <;> cases spends <;> simp [operation?, there] at hoperation
    | touch there => exact .refl _ _
    | cloneHandle => exact .refl _ _
    | dropHandle => exact tended_depart { session with handles := session.handles - 1 } sound .done

/-- Neither does an answer. -/
theorem tended_answer (inOrder : InOrder config session) {answer : Answer ω ε}
    (h : session.answer? answer = some (next, reply)) :
    Store.Tended (session.strays (.answer answer)) session.pool.store next.pool.store := by
  obtain ⟨activity, rest, hrunning, heq⟩ := answer?_cases h
  have horderly := inOrder.orderly
  have hmem : activity.stage ∈ session.stages := by simp [stages, hrunning]
  have hholds := horderly.holds hmem
  have hstands := horderly.stands _ hmem
  have hresume := session.pool.tended_resume horderly.sound activity.stage hholds hstands answer
  have hsound := (session.pool.steady_resume horderly.sound activity.stage hholds hstands
    answer).becomes.sound
  have hadvance := tended_advance { session with running := rest } activity.purpose hsound
  rw [← heq] at hadvance
  simpa [strays, hrunning] using hresume.trans (.of_nil hadvance)

/-- **What an event leaves behind.** -/
theorem tended_step (inOrder : InOrder config session) {event : Event κ ω ε}
    (h : session.step? event = some (next, reply)) :
    Store.Tended (session.strays event) session.pool.store next.pool.store := by
  cases event with
  | act action => exact tended_act inOrder.orderly.sound h
  | answer answer => exact tended_answer inOrder h

end steps

/-! ## Keys that are kept -/

/-- The pool keeps a slot for the key. -/
def Keeps (session : Session κ ω ε) (key : κ) : Prop :=
  (session.pool.store.find? key).isSome = true

/-- A resource of the key is idle or on loan. -/
def InUse (session : Session κ ω ε) (key : κ) : Prop :=
  0 < session.pool.numActive key + session.pool.numIdle key

/-- The keys that a move leaves with an empty slot. -/
def Move.strays (move : Move κ ω ε) : List κ := move.before.strays move.event

section keys

variable {config : Config} {log : List (Move κ ω ε)} {session next : Session κ ω ε}
  {reply : Option (Reply ω ε)}

/-- A key that is in use is kept. -/
theorem keeps_of_inUse {key : κ} (inUse : session.InUse key) : session.Keeps key := by
  unfold InUse Pool.numActive Pool.numIdle Store.numActive Store.numIdle at inUse
  unfold Keeps
  cases hfind : session.pool.store.find? key with
  | none => simp [hfind] at inUse
  | some id => rfl

/-- Between operations nothing is reserved, so an empty slot is one of a key that is not in use. -/
theorem isSpare_of_rest (inOrder : InOrder config session) (rest : session.running = []) {key : κ}
    (keeps : session.Keeps key) (unused : ¬session.InUse key) :
    session.pool.store.IsSpare key := by
  have hflight : session.pool.store.numInFlight key = 0 := by
    rw [inOrder.numInFlight_eq]
    simp [borrows, rest]
  unfold InUse Pool.numActive Pool.numIdle at unused
  rw [Store.numActive_eq, Store.numIdle_eq] at unused
  refine ⟨keeps, Slot.isVacant_iff.mpr ⟨?_, ?_, hflight⟩⟩
  · apply List.eq_nil_of_length_eq_zero
    omega
  · omega

/-- An empty slot was left by some move. -/
theorem strays_of_isSpare (history : History config log session) {key : κ}
    (spare : session.pool.store.IsSpare key) : ∃ move ∈ log, key ∈ move.strays := by
  induction history with
  | create => exact absurd spare.1 (by simp [create, Pool.empty, Store.find?])
  | @step log session next event reply past hstep ih =>
    have htended := tended_step (reachable_inOrder past.reachable) hstep
    rcases htended.spare key spare with hbefore | hstray
    · obtain ⟨move, hmove, hleft⟩ := ih hbefore
      exact ⟨move, List.mem_cons_of_mem _ hmove, hleft⟩
    · exact ⟨_, List.mem_cons_self, hstray⟩

/-- The store of a session keeps as many idle resources as its configuration says. -/
theorem idleLimit_of_reachable (reachable : Reachable config session) :
    session.pool.store.idleLimit = config.idleLimit := by
  induction reachable with
  | create => rfl
  | step past hstep ih =>
    exact (tended_step (reachable_inOrder past) hstep).idleLimit_eq.trans ih

/-- A key is left with an empty slot only under a limit of zero or on a closed pool. -/
theorem strays_cases (reachable : Reachable config session) {event : Event κ ω ε} {key : κ}
    (h : key ∈ session.strays event) :
    config.activeLimit = some 0 ∨ config.idleLimit = some 0 ∨ session.pool.isClosed = true := by
  have hconfig := (reachable_inOrder reachable).config_eq
  cases event with
  | act action =>
    left
    obtain ⟨operation, -, hleft⟩ := List.mem_flatMap.mp h
    cases operation with
    | borrow place =>
      simp only [Operation.strays, Store.straysOfReserve, hconfig] at hleft
      split at hleft
      · cases hleft
      · split at hleft
        · assumption
        · cases hleft
    | _ => cases hleft
  | answer answer =>
    right
    obtain ⟨activity, -, hleft⟩ := List.mem_flatMap.mp h
    have hdeposit : ∃ place, key ∈ session.pool.store.straysOfDeposit place := by
      cases hstage : activity.stage <;> cases answer <;> rw [hstage] at hleft <;>
        first | exact ⟨_, hleft⟩ | cases hleft
    obtain ⟨place, hplace⟩ := hdeposit
    rw [Store.straysOfDeposit, idleLimit_of_reachable reachable] at hplace
    split at hplace
    · next hnone => exact hnone.symm
    · cases hplace

/-- A borrow starts through a handle. -/
theorem asks_of_operation? {action : Action κ ω} {key : κ}
    (h : session.operation? action = some (.borrow key)) :
    session.handles ≠ 0 ∧ (action = .call (.borrow key) ∨ action = .get key) := by
  cases action <;> simp_all [operation?]

/-- Every key that an event leaves with an empty slot is kept after it. -/
theorem keeps_of_strays (inOrder : InOrder config session) {event : Event κ ω ε}
    (h : session.step? event = some (next, reply)) {key : κ} (stray : key ∈ session.strays event) :
    next.Keeps key := by
  have hsound := inOrder.orderly.sound
  have hopened : ((session.pool.store.openSlot key).2.find? key).isSome = true := by
    rw [Store.find?_openSlot, if_pos rfl]
    rfl
  cases event with
  | act action =>
    obtain ⟨operation, hoperation, hleft⟩ := List.mem_flatMap.mp stray
    cases operation with
    | borrow place =>
      obtain ⟨rfl, pool, heq, hstore⟩ := session.pool.borrow_of_strays hsound hleft
      obtain ⟨hhandles, hasks⟩ := asks_of_operation? (Option.mem_toList.mp hoperation)
      obtain ⟨purpose, hpurpose, hact⟩ := act?_borrow hhandles hasks
      rw [heq, advance_refused hhandles hpurpose] at hact
      obtain ⟨rfl, -⟩ := Prod.mk.inj (Option.some.inj (hact.symm.trans h))
      unfold Keeps
      rw [hstore]
      exact hopened
    | _ => cases hleft
  | answer answer =>
    obtain ⟨activity, rest, hrunning, heq⟩ := answer?_cases h
    have hleft : key ∈ activity.stage.strays session.pool answer := by
      simpa [strays, hrunning] using stray
    have hwaits : ∃ stage, (session.pool.resume activity.stage answer).2 = .waiting stage ∧
        (session.pool.resume activity.stage answer).1.store =
          (session.pool.store.openSlot key).2 := by
      cases hstage : activity.stage <;> cases answer <;> rw [hstage] at hleft <;>
        try cases hleft
      all_goals
        obtain ⟨rfl, hpark⟩ := session.pool.park_of_strays hsound hleft _ _
        exact hpark
    obtain ⟨stage, hwaiting, hstore⟩ := hwaits
    generalize session.pool.resume activity.stage answer = turn at hwaiting hstore heq
    obtain ⟨pool, progress⟩ := turn
    cases hwaiting
    cases heq
    unfold Keeps
    rw [hstore]
    exact hopened

/-- Without moves that leave empty slots the keys that are kept are the keys in use. -/
theorem keeps_iff_inUse (history : History config log session) (rest : session.running = [])
    (none' : ∀ move ∈ log, move.strays = []) (key : κ) :
    session.Keeps key ↔ session.InUse key := by
  refine ⟨?_, keeps_of_inUse⟩
  intro hkeeps
  by_contra hunused
  have hspare := isSpare_of_rest (reachable_inOrder history.reachable) rest hkeeps hunused
  obtain ⟨move, hmove, hleft⟩ := strays_of_isSpare history hspare
  rw [none' move hmove] at hleft
  cases hleft

/-- The number of keys is the number of those that are kept. -/
theorem keyCount_eq (sound : session.pool.store.Sound) :
    session.pool.store.keyCount = {key | session.Keeps key}.ncard := by
  have hkeys : {key | session.Keeps key} =
      ((session.pool.store.links.map Prod.fst).toFinset : Set κ) := by
    ext key
    simp [Keeps, Store.find?, List.find?_isSome]
  rw [hkeys, Set.ncard_coe_finset, List.toFinset_card_of_nodup sound.keys_nodup, List.length_map]
  rfl

/-- **The pool keeps the keys in use**, and whatever else it keeps between operations was left by a
move that opened a slot to no end. Such a move does leave its key behind, and there is none under
limits other than zero on an open pool. Without such moves the keys that are kept are exactly those
in use, and so many are counted. -/
theorem kept_keys_in_use (history : History config log session) (rest : session.running = []) :
    (∀ key, session.InUse key → session.Keeps key) ∧
    (∀ key, session.Keeps key → ¬session.InUse key → ∃ move ∈ log, key ∈ move.strays) ∧
    (∀ move ∈ log, ∀ key ∈ move.strays, move.after.Keeps key ∧
      (config.activeLimit = some 0 ∨ config.idleLimit = some 0 ∨
        move.before.pool.isClosed = true)) ∧
    ((∀ move ∈ log, move.strays = []) → (∀ key, session.Keeps key ↔ session.InUse key) ∧
      session.pool.store.keyCount = {key | session.InUse key}.ncard) := by
  have hinOrder := reachable_inOrder history.reachable
  refine ⟨fun _ => keeps_of_inUse, ?_, ?_, ?_⟩
  · intro key hkeeps hunused
    exact strays_of_isSpare history (isSpare_of_rest hinOrder rest hkeeps hunused)
  · intro move hmove key hstray
    obtain ⟨hreachable, hstep⟩ := history.step_of_mem hmove
    exact ⟨keeps_of_strays (reachable_inOrder hreachable) hstep hstray,
      strays_cases hreachable hstray⟩
  · intro hnone
    have hiff := keeps_iff_inUse history rest hnone
    refine ⟨hiff, ?_⟩
    rw [keyCount_eq hinOrder.orderly.sound]
    simp only [hiff]

/-- After the errands the keys that are kept are the two in use. -/
theorem keys_after_errands : ∃ log session, replay tested errands = some (log, session) ∧
    (∀ key, session.Keeps key ↔ session.InUse key) ∧
    session.pool.store.keyCount = {key | session.InUse key}.ncard ∧
    session.pool.store.keyCount = 2 := by
  have hfits : ∀ past ∈ replay tested errands,
      past.2.running.isEmpty = true ∧ (∀ move ∈ past.1, move.strays = []) ∧
        past.2.pool.store.keyCount = 2 := by
    decide +kernel
  have hplays : (replay tested errands).isSome = true := by
    decide +kernel
  obtain ⟨⟨log, session⟩, hpast⟩ := Option.isSome_iff_exists.mp hplays
  obtain ⟨hrest, hnone, htwo⟩ := hfits _ hpast
  obtain ⟨-, -, -, hkept⟩ :=
    kept_keys_in_use (history_of_replay hpast) (List.isEmpty_iff.mp hrest)
  obtain ⟨hiff, hcount⟩ := hkept hnone
  exact ⟨log, session, hpast, hiff, hcount, htwo⟩

/-- Events that leave one key behind and nothing under it. -/
def LeavesKey (config : Config) (events : List (Event Nat Nat String)) : Prop :=
  (replay config events).any (fun past => past.2.running.isEmpty &&
    past.2.pool.numActive 0 + past.2.pool.numIdle 0 == 0 && past.2.pool.store.keyCount == 1 &&
    past.1.all fun move => !move.event.isPanic) = true

/-- **Keys can be kept that are not in use**: by a borrow that is refused under a limit of zero, by
an addition of which nothing may be kept, and by an addition that the pool is closed under. -/
theorem unused_key_kept :
    LeavesKey (Config.standard.withMaxActive 0) [.act (.call (.borrow 0))] ∧
    LeavesKey (Config.standard.withMaxIdle 0) [.act (.call (.add 0)), .answer (.done 7),
      .answer (.done 7), .answer (.done 7)] ∧
    LeavesKey Config.standard [.act (.call (.add 0)), .answer (.done 7), .act (.call .close),
      .answer (.done 7), .answer (.done 7)] := by
  unfold LeavesKey
  decide +kernel

end keys

end Session

end ResourcePool
