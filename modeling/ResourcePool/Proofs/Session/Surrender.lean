import ResourcePool.Proofs.Pool.Solvency
import ResourcePool.Proofs.Session.Backing
import ResourcePool.Proofs.Session.Load

/-!
# Loans are given up before the destroy

A resource that comes off loan is destroyed when it comes back to a closed pool, when it does not
pass validation or cannot be passivated, when there is no room for it, and when its client wants it
so. In all of these the pool gives the loan up before it calls the factory. So the factory, if it
looks at the pool or uses it from inside that call, finds the key without the resource, and even
under its limit again.

* `Move.Scraps` — the ways of a resource from loan to its destroy.
* `Move.Surrenders` — a destroy whose resource is counted no longer.
* `Session.LeavesRoom` — the next borrow of a key is not refused.
* `Session.TellsIfOpen` — what the client of an invalidation is told.
* `surrendered_first` — all of that, for every move of every history.
-/

set_option linter.unusedSectionVars false

namespace ResourcePool.Session

variable {κ ω ε ι : Type} [DecidableEq κ]

/-! ## Destroys of what was on loan -/

/-- The move starts an operation. -/
def Move.Starts (move : Move κ ω ε) (operation : Operation κ ω) : Prop :=
  ∃ action, move.event = .act action ∧ move.before.operation? action = some operation

/-- The move answers the call of an operation that waits at a stage. -/
def Move.Resumes (move : Move κ ω ε) (stage : Stage κ ω ε) (answer : Answer ω ε) : Prop :=
  (∃ purpose rest, move.before.running = ⟨stage, purpose⟩ :: rest) ∧ move.event = .answer answer

/-- **How a resource comes from loan to its destroy.** -/
inductive Move.Scraps (move : Move κ ω ε) (key : κ) (object : ω) : Prop where
  /-- It comes back to a closed pool. -/
  | closed (starts : move.Starts (.giveBack key object)) (closed : move.before.pool.isClosed = true)
  /-- It has come back and does not pass validation. -/
  | invalid {slot : SlotId} {answer : Answer ω ε}
      (resumes : move.Resumes (.inspecting key slot object) answer)
      (fails : (∃ changed, answer = .refused changed) ∨ ∃ error, answer = .failed error)
  /-- It has come back and cannot be passivated. -/
  | unready {slot : SlotId} {error : ε}
      (resumes : move.Resumes (.passivating key slot object) (.failed error))
  /-- It has come back and is ready to be kept, but the pool has been closed or the key has as many
  idle resources as it may. -/
  | surplus {slot : SlotId} {resource : ω} {answer : Answer ω ε}
      (resumes : move.Resumes (.passivating key slot resource) answer)
      (ready : answer = .done object ∨ answer = .refused object)
      (full : move.before.pool.isClosed = true ∨ ∃ most,
        move.before.pool.config.idleLimit = some most ∧ most ≤ move.before.pool.numIdle key)
  /-- Its client wants it destroyed. -/
  | invalidated (starts : move.Starts (.invalidate key object))

/-- **A destroy of a resource that is counted no longer.** When the factory is called the key has
one loan less than before, and so have all keys together, and no other count has changed. -/
structure Move.Surrenders (move : Move κ ω ε) (key : κ) (object : ω) : Prop where
  asks : move.asked? = some (.destroy key object)
  active : move.after.pool.numActive key + 1 = move.before.pool.numActive key
  others : ∀ other, other ≠ key →
    move.after.pool.numActive other = move.before.pool.numActive other
  idle : ∀ place, move.after.pool.numIdle place = move.before.pool.numIdle place
  reserved : ∀ place,
    move.after.pool.store.numInFlight place = move.before.pool.store.numInFlight place
  totalActive : move.after.pool.store.totalActive + 1 = move.before.pool.store.totalActive
  totalIdle : move.after.pool.store.totalIdle = move.before.pool.store.totalIdle

/-- Whatever happens next, the first borrow of a key after that is not refused, if the pool is open
by then and somebody still has a handle. -/
def LeavesRoom (session : Session κ ω ε) (key : κ) : Prop :=
  ∀ log final, Later session log final → (∀ move ∈ log, ¬move.Borrows key) →
    final.pool.isClosed = false → final.handles ≠ 0 →
    ∀ action, action = .call (.borrow key) ∨ action = .get key →
      ∃ next reply, final.act? action = some (next, reply) ∧
        reply ≠ some (.result (.failed .atCapacity))

/-- The client is told a result: at once, or when the pool, which nothing refers to any more, has
closed, unless a destroy panics then. -/
def Tells (outcome : Session κ ω ε × Option (Reply ω ε)) (result : Result ω ε) : Prop :=
  resultOf outcome = some result ∧ (outcome.2 = none →
    ∀ log final, Later outcome.1 log final → Calm log →
      ∀ move ∈ log, ∀ told, move.reply = some told → told = .result result)

/-- Whatever happens while the innermost operation waits for its destroy, its client is told of a
failure if the destroy fails and the pool is open by then, and not otherwise. -/
def TellsIfOpen (session : Session κ ω ε) : Prop :=
  ∀ log final, Later session log final → final.running = session.running → ∀ answer,
    ∃ outcome result, final.answer? answer = some outcome ∧ Tells outcome result ∧
      ∀ error, result = .failed (.factory error) ↔
        answer = .failed error ∧ final.pool.isClosed = false

/-! ## Counts -/

section counts

variable {pool : Pool κ ω ε} {turn : Pool.Turn κ ω ε} {key : κ} {object : ω}

/-- A turn that gives a loan up changes that one count. -/
theorem counts_of_surrenders (surrenders : Pool.Turn.Surrenders pool key object turn) :
    turn.1.numActive key + 1 = pool.numActive key ∧
    (∀ other, other ≠ key → turn.1.numActive other = pool.numActive other) ∧
    (∀ place, turn.1.numIdle place = pool.numIdle place) ∧
    ∀ place, turn.1.store.numInFlight place = pool.store.numInFlight place := by
  have hloaned := surrenders.loaned
  have hself : turn.1.store.live key = (pool.store.live key).release := by
    rw [surrenders.becomes.live_eq, Function.update_self]
  have hothers : ∀ other, other ≠ key → turn.1.store.live other = pool.store.live other := by
    intro other hne
    rw [surrenders.becomes.live_eq, Function.update_of_ne hne]
  refine ⟨?_, ?_, ?_, ?_⟩
  · unfold Pool.numActive
    rw [Store.numActive_eq, Store.numActive_eq, hself]
    exact Nat.sub_add_cancel hloaned
  · intro other hne
    unfold Pool.numActive
    rw [Store.numActive_eq, Store.numActive_eq, hothers other hne]
  · intro place
    unfold Pool.numIdle
    rw [Store.numIdle_eq, Store.numIdle_eq]
    by_cases hkey : place = key
    · rw [hkey, hself]
      rfl
    · rw [hothers place hkey]
  · intro place
    unfold Store.numInFlight
    by_cases hkey : place = key
    · rw [hkey, hself]
      rfl
    · rw [hothers place hkey]

/-- So all keys together have one loan less, and as much that is idle as before. -/
theorem totals_of_surrenders (sound : pool.store.Sound)
    (surrenders : Pool.Turn.Surrenders pool key object turn) :
    turn.1.store.totalActive + 1 = pool.store.totalActive ∧
      turn.1.store.totalIdle = pool.store.totalIdle := by
  have hsound := surrenders.becomes.sound
  obtain ⟨hself, hothers, hidle, -⟩ := counts_of_surrenders surrenders
  let keys := insert key (pool.store.keys ∪ turn.1.store.keys)
  have hbefore : pool.store.keys ⊆ keys :=
    Finset.subset_union_left.trans (Finset.subset_insert _ _)
  have hafter : turn.1.store.keys ⊆ keys :=
    Finset.subset_union_right.trans (Finset.subset_insert _ _)
  have hmem : key ∈ keys := Finset.mem_insert_self _ _
  have htotal : ∀ store : Store κ ω, store.total Holding.active keys =
      store.numActive key + ∑ place ∈ keys.erase key, store.numActive place := by
    intro store
    rw [Finset.add_sum_erase keys _ hmem]
    exact Finset.sum_congr rfl fun place _ => (store.numActive_eq place).symm
  constructor
  · have hrest : ∑ place ∈ keys.erase key, turn.1.store.numActive place =
        ∑ place ∈ keys.erase key, pool.store.numActive place :=
      Finset.sum_congr rfl fun place hplace => hothers place (Finset.ne_of_mem_erase hplace)
    have hkey : turn.1.store.numActive key + 1 = pool.store.numActive key := hself
    rw [Store.totalActive_eq sound hbefore, Store.totalActive_eq hsound hafter, htotal, htotal,
      hrest]
    omega
  · rw [Store.totalIdle_eq sound hbefore, Store.totalIdle_eq hsound hafter]
    refine Finset.sum_congr rfl fun place _ => ?_
    have hplace := hidle place
    unfold Pool.numIdle at hplace
    rw [Store.numIdle_eq, Store.numIdle_eq] at hplace
    exact hplace

end counts

section moves

variable [DecidableEq ι] {config : Config} {ident : ω → ι} {log : List (Move κ ω ε)}
  {session base after : Session κ ω ε} {event : Event κ ω ε} {reply : Option (Reply ω ε)}
  {purpose : Purpose κ} {turn : Pool.Turn κ ω ε} {key : κ} {object : ω}

/-! ## Turns that give a loan up -/

/-- An operation that takes a resource back starts while there is a loan of its key. -/
theorem Backed.starts {frames : List (Frame κ ω ε)} (backed : Backed ident log session frames)
    (numbered : Numbered session) (step : session.step? event = some (after, reply))
    (held : ∀ entry ∈ (Move.mk session event after reply).handsBack,
      ident entry.2 ∈ loans ident entry.1 log)
    (opens : session.Opens event base purpose turn) {operation : Operation κ ω}
    (starts : (Move.mk session event after reply).Starts operation) :
    turn = session.pool.start operation ∧
      ∀ place, operation.loan? = some place → 0 < (session.pool.store.live place).active := by
  obtain ⟨action, hevent, hoperation⟩ := starts
  obtain rfl : event = .act action := hevent
  have hpoised := backed.poised numbered.nodup step held
  rw [show session.operation? action = _ from hoperation] at hpoised
  refine ⟨?_, fun place => hpoised.loaned⟩
  cases opens with
  | start starts =>
    cases hoperation.symm.trans starts
    rfl
  | aside other => cases hoperation.symm.trans other

/-- It has its loan still when it goes on, and the slot of its key. -/
theorem Backed.resumes {frames : List (Frame κ ω ε)} (backed : Backed ident log session frames)
    (opens : session.Opens event base purpose turn) {stage : Stage κ ω ε} {answer : Answer ω ε}
    (resumes : (Move.mk session event after reply).Resumes stage answer) :
    turn = session.pool.resume stage answer ∧
      ∀ place slot, stage.foothold? = some (place, slot) →
        session.pool.store.find? place = some slot ∧
          0 < (session.pool.store.live place).active := by
  obtain ⟨⟨purpose, rest, hrunning⟩, hevent⟩ := resumes
  obtain rfl : event = .answer answer := hevent
  refine ⟨?_, fun _ _ => backed.returning (hrunning ▸ List.mem_cons_self)⟩
  cases opens with
  | resume running_eq =>
    cases hrunning.symm.trans running_eq
    rfl

/-- **Every way to such a destroy gives the loan up first**: there is one, because the loans are
backed. -/
theorem Backed.surrenders {frames : List (Frame κ ω ε)} (backed : Backed ident log session frames)
    (inOrder : InOrder config session)
    (idleLimit_eq : session.pool.store.idleLimit = config.idleLimit) (numbered : Numbered session)
    (step : session.step? event = some (after, reply))
    (held : ∀ entry ∈ (Move.mk session event after reply).handsBack,
      ident entry.2 ∈ loans ident entry.1 log)
    (opens : session.Opens event base purpose turn)
    (scraps : (Move.mk session event after reply).Scraps key object) :
    Pool.Turn.Surrenders session.pool key object turn := by
  have hsound := inOrder.orderly.sound
  cases scraps with
  | closed starts closed =>
    obtain ⟨rfl, hloaned⟩ := backed.starts numbered step held opens starts
    exact Pool.surrenders_giveBack hsound (hloaned key rfl) closed object
  | @invalid slot answer resumes fails =>
    obtain ⟨rfl, hreturn⟩ := backed.resumes opens resumes
    obtain ⟨hid, hloaned⟩ := hreturn key slot rfl
    rcases fails with ⟨changed, rfl⟩ | ⟨error, rfl⟩
    · exact Pool.surrenders_scrap hsound hid hloaned _ _ object
    · exact Pool.surrenders_scrap hsound hid hloaned _ _ object
  | @unready slot error resumes =>
    obtain ⟨rfl, hreturn⟩ := backed.resumes opens resumes
    obtain ⟨hid, hloaned⟩ := hreturn key slot rfl
    exact Pool.surrenders_scrap hsound hid hloaned _ _ object
  | @surplus slot resource answer resumes ready full =>
    obtain ⟨rfl, hreturn⟩ := backed.resumes opens resumes
    obtain ⟨hid, hloaned⟩ := hreturn key slot rfl
    have hfull : session.pool.isClosed = true ∨ ∃ most, session.pool.store.idleLimit = some most ∧
        most ≤ (session.pool.store.live key).idle.length := by
      rw [idleLimit_eq, ← inOrder.config_eq, ← Store.numIdle_eq]
      exact full
    rcases ready with rfl | rfl
    · exact Pool.surrenders_settle hsound hid hloaned object hfull
    · exact Pool.surrenders_settle hsound hid hloaned object hfull
  | invalidated starts =>
    obtain ⟨rfl, hloaned⟩ := backed.starts numbered step held opens starts
    exact (Pool.surrenders_invalidate hsound (hloaned key rfl) object).2

/-- The factory is called after that, with the counts as the turn has left them. -/
theorem surrenders_advance (sound : session.pool.store.Sound)
    (surrenders : Pool.Turn.Surrenders session.pool key object turn)
    (outcome_eq : (after, reply) = base.advance purpose turn) :
    (Move.mk session event after reply).Surrenders key object ∧
      ∃ aftermath, after.running = ⟨.destroying key object aftermath, purpose⟩ :: base.running ∧
        turn.2 = .waiting (.destroying key object aftermath) ∧ after.pool = turn.1 := by
  obtain ⟨hself, hothers, hidle, hreserved⟩ := counts_of_surrenders surrenders
  obtain ⟨hactive, htotal⟩ := totals_of_surrenders sound surrenders
  obtain ⟨aftermath, hwaits⟩ := surrenders.waits
  obtain ⟨pool, progress⟩ := turn
  obtain rfl : progress = _ := hwaits
  cases outcome_eq
  exact ⟨⟨rfl, hself, hothers, hidle, hreserved, hactive, htotal⟩, aftermath, rfl, rfl, rfl⟩

/-! ## Room for a borrow -/

/-- **A loan that has been given up is room for a borrow**, because the key was within its limit. -/
theorem leavesRoom_of_surrenders (inOrder : InOrder config session)
    (inOrder' : InOrder config after)
    (surrenders : Pool.Turn.Surrenders session.pool key object turn)
    (pool_eq : after.pool = turn.1) : after.LeavesRoom key := by
  intro later final hlater hother hopen hhandles action hasks
  refine admitted_of_room (hlater.inOrder inOrder') hopen hhandles (fun limit hlimit => ?_) hasks
  refine Nat.lt_of_le_of_lt (load_of_later inOrder' hlater hother) ?_
  have hcapacity := inOrder.orderly.capacity key limit (inOrder.config_eq.symm ▸ hlimit)
  have hloaned := surrenders.loaned
  rw [pool_eq]
  unfold Store.load
  rw [surrenders.becomes.live_eq, Function.update_self]
  simp only [Slot.release]
  omega

/-! ## What is told of an invalidation -/

/-- The client of an invalidation is told its result as it is. -/
theorem purposeOf_of_invalidate {action : Action κ ω}
    (h : session.operation? action = some (.invalidate key object)) :
    session.purposeOf action = .plain := by
  cases action with
  | call operation => rfl
  | invalidate id => rfl
  | get place =>
    obtain ⟨-, hoperation⟩ := Option.ite_none_left_eq_some.mp h
    cases hoperation
  | dropGuard id =>
    obtain ⟨guard, -, hoperation⟩ := Option.map_eq_some_iff.mp h
    cases hoperation
  | _ => rfl

/-- **How an invalidation ends**: with the failure of the destroy if the pool is open, and with none
otherwise. -/
theorem resume_of_invalidation (pool : Pool κ ω ε) (key : κ) (object : ω) (answer : Answer ω ε) :
    ∃ (next : Pool κ ω ε) (result : Result ω ε),
      pool.resume (.destroying key object .surfaceIfOpen) answer = next.finish result ∧
      next.store = pool.store ∧
      ∀ error, result = .failed (.factory error) ↔
        answer = .failed error ∧ pool.isClosed = false := by
  cases answer with
  | done _ => exact ⟨_, _, rfl, rfl, fun error => by simp⟩
  | refused _ => exact ⟨_, _, rfl, rfl, fun error => by simp⟩
  | panicked reason => exact ⟨_, _, rfl, rfl, fun error => by simp⟩
  | failed error =>
    cases hclosed : pool.isClosed with
    | true =>
      have hcounted : (pool.count .destroyFailures).isClosed = true := hclosed
      simp only [Pool.resume, Pool.afterDestroyFailure, hcounted, if_true]
      exact ⟨_, _, rfl, rfl, fun other => by simp⟩
    | false =>
      have hcounted : (pool.count .destroyFailures).isClosed = false := hclosed
      simp only [Pool.resume, Pool.afterDestroyFailure, hcounted]
      exact ⟨_, _, rfl, rfl, fun other => by simp⟩

variable (base) in
/-- **The result of an operation is told** as it is, before or after the pool closes. -/
theorem tells_advance {pool : Pool κ ω ε} (sound : pool.store.Sound) (result : Result ω ε) :
    Tells (base.advance .plain (pool.finish result)) result := by
  show Tells (({ base with pool := pool } : Session κ ω ε).depart result) result
  rcases ({ base with pool := pool } : Session κ ω ε).depart_cases result with
    ⟨-, heq⟩ | ⟨hhandles, hguards, hrunning, heq⟩
  · rw [heq]
    exact ⟨rfl, nofun⟩
  · obtain ⟨hwinds, -⟩ :=
      windsUp_closing { base with pool := pool } hhandles hguards hrunning sound result
    rw [heq]
    refine ⟨?_, fun _ log final hlater hcalm => (hwinds.later hlater).2 hcalm⟩
    have hsweeps := pool.close_sweeps result
    show resultOf (({ base with pool := pool } : Session κ ω ε).closing (pool.close result)) = _
    generalize pool.close result = turn at hsweeps
    obtain ⟨last, progress⟩ := turn
    rcases hsweeps with rfl | ⟨stage, rfl, hsweeps⟩
    · rfl
    · exact hsweeps.outcome?_eq

/-- An invalidation that waits for its destroy tells a failure if the pool is open by then. -/
theorem tellsIfOpen_of_invalidation (inOrder : InOrder config after)
    (running_eq : after.running = ⟨.destroying key object .surfaceIfOpen, .plain⟩ :: base.running) :
    after.TellsIfOpen := by
  intro later final hlater hrunning answer
  have hinOrder := hlater.inOrder inOrder
  obtain ⟨next, result, hresume, hstore, hiff⟩ :=
    resume_of_invalidation final.pool key object answer
  have hsound : next.store.Sound := by
    rw [hstore]
    exact hinOrder.orderly.sound
  refine ⟨_, result, ?_, tells_advance { final with running := base.running } hsound result, hiff⟩
  simp only [answer?, hrunning.trans running_eq, hresume]

/-! ## Histories -/

/-- Nothing that was on loan comes to its destroy when nothing refers to the pool any more. -/
theorem WindsUp.not_scraps {result : Result ω ε} (windsUp : session.WindsUp result)
    (step : session.step? event = some (after, reply)) :
    ¬(Move.mk session event after reply).Scraps key object := by
  obtain ⟨handles, guards, -, hrunning⟩ := windsUp
  have hstart : ∀ operation : Operation κ ω,
      ¬(Move.mk session event after reply).Starts operation := by
    rintro operation ⟨action, hevent, -⟩
    obtain rfl : event = .act action := hevent
    cases (act?_of_unreferenced handles guards action).symm.trans step
  have hresume : ∀ (stage : Stage κ ω ε) (answer : Answer ω ε),
      (Move.mk session event after reply).Resumes stage answer → ∃ entry, stage.Sweeps entry := by
    rintro stage answer ⟨⟨purpose, rest, hwaits⟩, -⟩
    rcases hrunning with hnone | ⟨top, htop, hsweeps⟩
    · cases hnone.symm.trans hwaits
    · cases htop.symm.trans hwaits
      exact ⟨_, hsweeps⟩
  intro scraps
  cases scraps with
  | closed starts => exact hstart _ starts
  | invalidated starts => exact hstart _ starts
  | invalid resumes => obtain ⟨_, _, _, _, hsweeps⟩ := hresume _ _ resumes; cases hsweeps
  | unready resumes => obtain ⟨_, _, _, _, hsweeps⟩ := hresume _ _ resumes; cases hsweeps
  | surplus resumes => obtain ⟨_, _, _, _, hsweeps⟩ := hresume _ _ resumes; cases hsweeps

/-- **Loans are given up before the destroy.** Whatever the factory does, a panic or a use of the
pool from inside its calls included, and in the middle of any operations: if clients hand back only
what they hold, then every destroy of a resource that comes off loan is called when the resource is
no longer counted. So the next borrow of its key is not refused, even if the key was at its limit.
The client of an invalidation is told of the failure of the destroy exactly if the pool is open when
the destroy is over. -/
theorem surrendered_first {move : Move κ ω ε} (history : History config (move :: log) session)
    (linear : Linear ident (move :: log)) (scraps : move.Scraps key object) :
    move.Surrenders key object ∧ move.after.LeavesRoom key ∧
      (move.Starts (.invalidate key object) → move.after.TellsIfOpen) := by
  cases history with
  | @step log before next event reply past hstep =>
    have hinOrder := reachable_inOrder past.reachable
    have hinOrder' := hinOrder.step hstep
    rcases carries_of_history past linear.2 with ⟨frames, hbacked⟩ | ⟨result, hwindsUp⟩
    · obtain ⟨base, purpose, turn, hopens, heq⟩ := opens_of_step? hstep
      have hsurrenders := hbacked.surrenders hinOrder (idleLimit_of_reachable past.reachable)
        (numbered_of_history past) hstep linear.1 hopens scraps
      obtain ⟨hmove, aftermath, hrunning, hwaits, hpool⟩ :=
        surrenders_advance hinOrder.orderly.sound hsurrenders heq
      refine ⟨hmove, leavesRoom_of_surrenders hinOrder hinOrder' hsurrenders hpool, ?_⟩
      rintro ⟨action, hevent, hoperation⟩
      obtain rfl : event = .act action := hevent
      cases hopens with
      | aside other => cases hoperation.symm.trans other
      | start starts =>
        cases hoperation.symm.trans starts
        have hsound := hinOrder.orderly.sound
        have hstage := (Pool.surrenders_invalidate hsound hsurrenders.loaned object).1
        cases hwaits.symm.trans hstage
        rw [purposeOf_of_invalidate starts] at hrunning
        exact tellsIfOpen_of_invalidation hinOrder' hrunning
    · exact absurd scraps (hwindsUp.not_scraps hstep)

/-- An action that is over at once leaves the operations in progress. -/
theorem running_of_told {action : Action κ ω} {told : Reply ω ε}
    (step : session.step? (.act action) = some (after, some told)) :
    after.running = session.running := by
  obtain ⟨base, purpose, turn, hopens, heq⟩ := opens_of_step? step
  have hends := base.ends_advance purpose turn
  rw [← heq] at hends
  rcases running_of_ends hends with ⟨_, -, hrunning⟩ | ⟨_, hnone, -⟩
  · cases hopens with
    | start starts => exact hrunning.trans (running_prepare session action)
    | aside other => exact hrunning.trans (running_prepare session action)
  · cases hnone

/-- The events of a short run: the resource 7 is lent, and its client wants it destroyed. -/
def scrapped : List (Event Nat Nat String) :=
  [.act (.call (.borrow 0)), .answer (.done 7), .answer (.done 7), .act (.call (.invalidate 0 7))]

/-- With a limit of one, another borrow can start from inside the destroy; and if the destroy closes
the pool and then fails, nobody is told. -/
theorem surrendered_inside_invalidation : ∃ move log session,
    replay (Config.standard.withMaxActive 1) scrapped = some (move :: log, session) ∧
    move.before.pool.numActive 0 = 1 ∧ move.Surrenders 0 7 ∧
    (∃ next reply, move.after.act? (.call (.borrow 0)) = some (next, reply) ∧
      reply ≠ some (.result (.failed .atCapacity))) ∧
    ∃ closed outcome result, move.after.act? (.call .close) = some (closed, some (.result .done)) ∧
      closed.answer? (.failed "stuck") = some outcome ∧ Tells outcome result ∧
      result ≠ .failed (.factory "stuck") := by
  have hfits : ∀ past ∈ replay (Config.standard.withMaxActive 1) scrapped, Linear id past.1 ∧
      ∃ move ∈ past.1.head?, move.before.pool.numActive 0 = 1 ∧
        move.event = .act (.call (.invalidate 0 7)) ∧
        move.before.operation? (.call (.invalidate 0 7)) = some (.invalidate 0 7) ∧
        move.after.pool.isClosed = false ∧ move.after.handles ≠ 0 ∧
        ∃ outcome ∈ move.after.act? (.call .close), outcome.1.pool.isClosed = true ∧
          outcome.2 = some (.result .done) := by
    decide +kernel
  have hplays : (replay (Config.standard.withMaxActive 1) scrapped).isSome = true := by
    decide +kernel
  obtain ⟨⟨log, session⟩, hpast⟩ := Option.isSome_iff_exists.mp hplays
  obtain ⟨hlinear, move, hhead, hloaned, hevent, hoperation, hopen, hhandles, ⟨closed, reply⟩,
    hclose, hclosed, hdone⟩ := hfits _ hpast
  obtain ⟨rest, rfl⟩ := List.head?_eq_some_iff.mp hhead
  obtain rfl : reply = some (.result .done) := hdone
  have hstarts : move.Starts (.invalidate 0 7) := ⟨_, hevent, hoperation⟩
  obtain ⟨hsurrenders, hroom, htells⟩ :=
    surrendered_first (history_of_replay hpast) hlinear (.invalidated hstarts)
  have hstep : move.after.step? (.act (.call .close)) =
      some (closed, some (.result .done)) := hclose
  obtain ⟨outcome, result, hanswer, htold, hiff⟩ := htells hstarts _ _ (.step .now hstep)
    (running_of_told hstep) (.failed "stuck")
  refine ⟨move, rest, session, hpast, hloaned, hsurrenders,
    hroom [] _ .now (List.forall_mem_nil _) hopen hhandles _ (.inl rfl),
    closed, outcome, result, hclose, hanswer, htold, fun h => ?_⟩
  obtain ⟨-, hstill⟩ := (hiff "stuck").mp h
  exact absurd (hclosed.symm.trans hstill) nofun

end moves

end ResourcePool.Session
