import ResourcePool.Proofs.Session.Lifetime
import ResourcePool.Proofs.Session.Order

/-!
# Leaving a pool

What comes of it when a handle or a guard goes, up to the next action of a client. The resource of a
guard is handed back first: it is kept, or it is destroyed. As long as something keeps the pool
alive that is all that happens. Otherwise the pool closes then, and everything that is idle is
destroyed, and nothing else.

* `Action.leaves` — the actions by which a handle or a guard goes.
* `Leaving` — what may have become of the resources at some time afterwards.
* `Stands` — where the operation stands, with `stands_of_leaves` for its beginning,
  `Stands.answered` for every answer and `stands_of_history` for all of it.
-/

set_option linter.unusedSectionVars false

namespace ResourcePool

variable {κ ω ε ι : Type}

/-- Whether a handle or a guard goes by an action. -/
def Action.leaves : Action κ ω → Bool
  | dropHandle | release _ | invalidate _ | dropGuard _ => true
  | _ => false

/-- The deeds by which a resource is handed back. -/
inductive Deed.Returns (key : κ) : Deed κ ω → Prop where
  | nothing : Returns key .nothing
  | release : Returns key (.release key)
  | putBack (object : ω) : Returns key (.putBack key object)

variable [DecidableEq κ]

/-- **What a hand-back makes of a key**: a resource that is kept comes in at the front, and there is
at most one loan less. -/
theorem Deed.Returns.on_eq {deed : Deed κ ω} {key : κ} (returns : deed.Returns key)
    (selection : Selection) (place : κ) (holding : Holding ω) :
    (deed.on selection place holding).idle = listedUnder place deed.entries ++ holding.idle ∧
      (deed.on selection place holding).active ≤ holding.active ∧
      holding.active ≤
        (deed.on selection place holding).active + if key = place then 1 else 0 := by
  by_cases hplace : key = place
  · cases returns <;> simp [on, key?, change, entries, listedUnder, hplace] <;> omega
  · cases returns <;> simp [on, key?, change, entries, listedUnder, hplace]

namespace Pool.Turn.Does

variable {pool : Pool κ ω ε} {hand : Hand κ ω} {turn : Turn κ ω ε} {deed : Deed κ ω}

/-- A turn that does nothing leaves everything where it is. -/
theorem holding_of_nothing (does : Turn.Does pool hand turn .nothing) :
    turn.1.store.holding = pool.store.holding := by
  funext key
  rw [does.holding_eq, Deed.on_nothing]

/-- A turn after which a resource is still on its way back keeps nothing, and it does nothing as
long as the resource is not given to the factory to destroy. -/
theorem begins {key : κ} {stage : Stage κ ω ε} (does : Turn.Does pool hand turn deed)
    (early : deed = .nothing ∨ deed = .release key ∧ stage.patience = 1) :
    deed.Returns key ∧ deed.entries = [] ∧
      (1 < stage.patience → turn.1.store.holding = pool.store.holding) := by
  rcases early with rfl | ⟨rfl, hlast⟩
  · exact ⟨.nothing, rfl, fun _ => does.holding_of_nothing⟩
  · exact ⟨.release, rfl, fun hmore => absurd hlast (Nat.ne_of_gt hmore)⟩

end Pool.Turn.Does

namespace Session

/-! ## What a history tells -/

/-- Whether an event is an answer to a call. -/
def Event.isAnswer : Event κ ω ε → Bool
  | .answer _ => true
  | .act _ => false

/-- The guard that an action uses up. -/
def spent? (session : Session κ ω ε) : Action κ ω → Option (Guard κ ω)
  | .release id | .invalidate id | .dropGuard id => session.guard? id
  | _ => none

/-- The resource that comes back out of a guard. -/
def Move.yields (move : Move κ ω ε) : List (κ × ω) :=
  match move.event with
  | .act action => (move.before.spent? action).toList.map fun guard => (guard.key, guard.object)
  | .answer _ => []

/-- What a move yields was in a guard. -/
theorem Move.mem_yields {move : Move κ ω ε} {entry : κ × ω} (mem : entry ∈ move.yields) :
    ∃ id guard, move.before.guard? id = some guard ∧ (guard.key, guard.object) = entry := by
  unfold yields at mem
  split at mem
  · next action _ =>
    obtain ⟨guard, hguard, rfl⟩ := List.mem_map.mp mem
    have hspent := Option.mem_toList.mp hguard
    unfold spent? at hspent
    split at hspent
    · exact ⟨_, guard, hspent, rfl⟩
    · exact ⟨_, guard, hspent, rfl⟩
    · exact ⟨_, guard, hspent, rfl⟩
    · cases hspent
  · cases mem

/-- The resources that the factory was called to destroy, the latest first. -/
def destructions (log : List (Move κ ω ε)) : List (κ × ω) := log.flatMap Move.destroys

/-- The destroys of the last move come first. -/
theorem destructions_cons (move : Move κ ω ε) (log : List (Move κ ω ε)) :
    destructions (move :: log) = move.destroys ++ destructions log := rfl

/-- A resource is the other one after some changes of its state. -/
def Evolves (log : List (Move κ ω ε)) (entry other : κ × ω) : Prop :=
  other.1 = entry.1 ∧ Relation.ReflTransGen
    (fun object changed => (object, changed) ∈ log.flatMap Move.changes) entry.2 other.2

/-- A resource that has not changed is what it was. -/
theorem Evolves.refl (log : List (Move κ ω ε)) (entry : κ × ω) : Evolves log entry entry :=
  ⟨rfl, .refl⟩

/-- A change that comes later. -/
theorem Evolves.cons {log : List (Move κ ω ε)} {entry : κ × ω} {key : κ} {object changed : ω}
    (evolves : Evolves log entry (key, object)) {move : Move κ ω ε}
    (changes : changed = object ∨ (object, changed) ∈ move.changes) :
    Evolves (move :: log) entry (key, changed) := by
  obtain ⟨hkey, hstates⟩ := evolves
  have hbefore : Relation.ReflTransGen
      (fun object changed => (object, changed) ∈ (move :: log).flatMap Move.changes)
      entry.2 object :=
    hstates.lift id fun _ _ hchange => List.mem_append_right move.changes hchange
  refine ⟨hkey, ?_⟩
  rcases changes with rfl | hchange
  · exact hbefore
  · exact hbefore.tail (List.mem_append_left _ hchange)

/-- A resource has the same name after such changes. -/
theorem Evolves.name_eq {ident : ω → ι} {log : List (Move κ ω ε)} (keeps : KeepsNames ident log)
    {entry other : κ × ω} (evolves : Evolves log entry other) :
    ident other.2 = ident entry.2 := by
  obtain ⟨-, hstates⟩ := evolves
  generalize other.2 = changed at hstates
  induction hstates with
  | refl => rfl
  | tail _ hchange ih =>
    obtain ⟨move, hmove, hmem⟩ := List.mem_flatMap.mp hchange
    exact (keeps move hmove _ hmem).trans ih

/-- What some resources have become goes back to one of them. -/
theorem exists_of_evolves {log : List (Move κ ω ε)} {entries others : List (κ × ω)}
    (evolved : List.Forall₂ (Evolves log) entries others) {other : κ × ω} (mem : other ∈ others) :
    ∃ entry ∈ entries, Evolves log entry other := by
  induction evolved with
  | nil => cases mem
  | cons hfirst _ ih =>
    rcases List.mem_cons.mp mem with rfl | hrest
    · exact ⟨_, List.mem_cons_self, hfirst⟩
    · obtain ⟨entry, hentry, hevolves⟩ := ih hrest
      exact ⟨entry, List.mem_cons_of_mem _ hentry, hevolves⟩

/-- The loans that a pool counts are those before a move, but for the one that the move hands
back. -/
def LoansStay (start : Move κ ω ε) (pool : Pool κ ω ε) : Prop :=
  ∀ key, pool.numActive key ≤ start.before.pool.numActive key ∧
    start.before.pool.numActive key ≤ pool.numActive key + (listedUnder key start.yields).length

/-- The same of any other pool with as many loans. -/
theorem LoansStay.of_active {start : Move κ ω ε} {pool other : Pool κ ω ε}
    (loans : LoansStay start pool)
    (same : ∀ key, (other.store.holding key).active = (pool.store.holding key).active) :
    LoansStay start other := by
  intro key
  have hloans : other.numActive key = pool.numActive key := by
    unfold Pool.numActive
    rw [Store.numActive_eq, Store.numActive_eq]
    exact same key
  rw [hloans]
  exact loans key

/-- **What may have become of the resources** some moves after a handle or a guard has gone. Of what
the guard has yielded each resource is kept, scrapped or still on its way; those that were idle stay
idle while there is a handle or a guard, and otherwise they are swept in the end, along with the one
that is kept. -/
structure Leaving (start : Move κ ω ε) (moves : List (Move κ ω ε)) (session : Session κ ω ε)
    (kept scrapped underway swept : List (κ × ω)) : Prop where
  yielded : List.Forall₂ (Evolves moves) start.yields (kept ++ scrapped ++ underway)
  settled : session.running = [] → underway = []
  destroyed : destructions moves = swept ++ scrapped
  swept_from : ∀ key, listedUnder key swept <:+ listedUnder key kept ++ start.before.queue key
  referenced : session.handles ≠ 0 ∨ session.guards ≠ [] →
    session.pool.isClosed = false ∧ swept = [] ∧
      ∀ key, session.queue key = listedUnder key kept ++ start.before.queue key
  deserted : session.handles = 0 → session.guards = [] → session.running = [] →
    session.pool.isClosed = true ∧ ∀ key, session.queue key = [] ∧
      listedUnder key swept = listedUnder key kept ++ start.before.queue key
  loans : LoansStay start session.pool
  ends : session.running = [] ∨ moves.length ≤ 3 + start.before.pool.store.totalIdle

/-! ## Where an operation stands -/

/-- What is left in a pool of what was there before a move. -/
structure Left (start : Move κ ω ε) (kept : List (κ × ω)) (pool : Pool κ ω ε) : Prop where
  queue_eq : ∀ key, (pool.store.live key).idle = listedUnder key kept ++ start.before.queue key
  loans : LoansStay start pool
  idle_le : pool.store.totalIdle ≤ start.before.pool.store.totalIdle + kept.length

/-- The resource of a guard is on its way back. -/
structure Handing (start : Move κ ω ε) (moves : List (Move κ ω ε)) (session : Session κ ω ε)
    (stage : Stage κ ω ε) (purpose : Purpose κ) (entry : κ × ω) (object : ω) : Prop where
  running_eq : session.running = [⟨stage, purpose⟩]
  silent : ∀ key, purpose ≠ .guarding key
  isOpen : session.pool.isClosed = false
  handsBack : stage.HandsBack entry.1 object
  yields_eq : start.yields = [entry]
  evolves : Evolves moves entry (entry.1, object)
  destroyed : destructions moves = stage.request.destroys
  left : Left start [] session.pool
  untouched : 1 < stage.patience → session.pool.store.holding = start.before.pool.store.holding
  length_le : moves.length + stage.patience ≤ 4

/-- The hand-back is over, and something keeps the pool alive. -/
structure Staying (start : Move κ ω ε) (moves : List (Move κ ω ε)) (session : Session κ ω ε)
    (kept scrapped : List (κ × ω)) : Prop where
  running_eq : session.running = []
  referenced : session.handles ≠ 0 ∨ session.guards ≠ []
  isOpen : session.pool.isClosed = false
  yielded : List.Forall₂ (Evolves moves) start.yields (kept ++ scrapped)
  destroyed : destructions moves = scrapped
  left : Left start kept session.pool

/-- The pool has closed, and what was idle is being destroyed, or has been. -/
structure Sweeping (start : Move κ ω ε) (moves : List (Move κ ω ε)) (session : Session κ ω ε)
    (kept scrapped swept entries : List (κ × ω)) (result : Result ω ε) : Prop where
  running_eq : session.running =
    (Pool.swept entries result).stages.map fun stage => ⟨stage, .plain⟩
  handles : session.handles = 0
  guards : session.guards = []
  closed : session.pool.isClosed = true
  empty : ∀ key, session.queue key = []
  yielded : List.Forall₂ (Evolves moves) start.yields (kept ++ scrapped)
  destroyed : destructions moves = swept ++ scrapped
  swept_eq : ∀ key, listedUnder key (entries.tail.reverse ++ swept) =
    listedUnder key kept ++ start.before.queue key
  loans : LoansStay start session.pool
  length_le : moves.length + entries.length ≤ 4 + start.before.pool.store.totalIdle

/-- **Where an operation stands** that is about a handle or a guard that goes. -/
inductive Stands (start : Move κ ω ε) (moves : List (Move κ ω ε)) (session : Session κ ω ε) :
    Prop where
  | handing {stage : Stage κ ω ε} {purpose : Purpose κ} {entry : κ × ω} {object : ω}
      (handing : Handing start moves session stage purpose entry object)
  | staying {kept scrapped : List (κ × ω)} (staying : Staying start moves session kept scrapped)
  | sweeping {kept scrapped swept entries : List (κ × ω)} {result : Result ω ε}
      (sweeping : Sweeping start moves session kept scrapped swept entries result)

section stands

variable {config : Config} {start : Move κ ω ε} {moves : List (Move κ ω ε)}
  {session next base : Session κ ω ε} {purpose : Purpose κ} {turn : Pool.Turn κ ω ε}
  {outcome : Session κ ω ε × Option (Reply ω ε)}

/-- The resource of a guard is on its way back until the factory is called to destroy it: then it
counts as scrapped. -/
theorem Handing.leaving {stage : Stage κ ω ε} {entry : κ × ω} {object : ω}
    (handing : Handing start moves session stage purpose entry object) :
    ∃ kept scrapped underway swept, Leaving start moves session kept scrapped underway swept := by
  obtain ⟨running_eq, -, isOpen, handsBack, yields_eq, evolves, destroyed, left, -, length_le⟩ :=
    handing
  have hyielded : List.Forall₂ (Evolves moves) start.yields [(entry.1, object)] := by
    rw [yields_eq]
    exact .cons evolves .nil
  have hpatience : 0 < stage.patience := by
    cases handsBack <;> simp [Stage.patience]
  have hends : session.running = [] ∨ moves.length ≤ 3 + start.before.pool.store.totalIdle := by
    omega
  have hreferenced : session.handles ≠ 0 ∨ session.guards ≠ [] →
      session.pool.isClosed = false ∧ ([] : List (κ × ω)) = [] ∧
        ∀ key, session.queue key = listedUnder key [] ++ start.before.queue key :=
    fun _ => ⟨isOpen, rfl, left.queue_eq⟩
  have hbusy : session.running ≠ [] := by simp [running_eq]
  cases handsBack with
  | destroying final =>
    exact ⟨[], [(entry.1, object)], [], [], hyielded, fun _ => rfl, destroyed,
      fun _ => List.nil_suffix, hreferenced, fun _ _ hrest => absurd hrest hbusy, left.loans, hends⟩
  | _ =>
    exact ⟨[], [], [(entry.1, object)], [], hyielded, fun hrest => absurd hrest hbusy, destroyed,
      fun _ => List.nil_suffix, hreferenced, fun _ _ hrest => absurd hrest hbusy, left.loans, hends⟩

/-- A hand-back that is over has kept its resource or scrapped it. -/
theorem Staying.leaving {kept scrapped : List (κ × ω)}
    (staying : Staying start moves session kept scrapped) :
    Leaving start moves session kept scrapped [] [] := by
  obtain ⟨running_eq, referenced, isOpen, yielded, destroyed, left⟩ := staying
  refine ⟨?_, fun _ => rfl, destroyed, fun _ => List.nil_suffix,
    fun _ => ⟨isOpen, rfl, left.queue_eq⟩, ?_, left.loans, .inl running_eq⟩
  · rw [List.append_nil]
    exact yielded
  · intro hhandles hguards _
    rcases referenced with h | h
    · exact absurd hhandles h
    · exact absurd hguards h

/-- A pool that closes has swept what it has destroyed. -/
theorem Sweeping.leaving {kept scrapped swept entries : List (κ × ω)} {result : Result ω ε}
    (sweeping : Sweeping start moves session kept scrapped swept entries result) :
    Leaving start moves session kept scrapped [] swept := by
  obtain ⟨running_eq, handles, guards, closed, empty, yielded, destroyed, swept_eq, loans,
    length_le⟩ := sweeping
  refine ⟨?_, fun _ => rfl, destroyed, fun key => ?_, ?_, ?_, loans, ?_⟩
  · rw [List.append_nil]
    exact yielded
  · rw [← swept_eq key, listedUnder_append]
    exact List.suffix_append _ _
  · rintro (h | h)
    · exact absurd handles h
    · exact absurd guards h
  · intro _ _ hrest
    refine ⟨closed, fun key => ⟨empty key, ?_⟩⟩
    cases entries with
    | nil => exact swept_eq key
    | cons entry rest =>
      rw [running_eq] at hrest
      cases hrest
  · cases entries with
    | nil => exact .inl running_eq
    | cons entry rest =>
      rw [List.length_cons] at length_le
      exact .inr (by omega)

/-- **What may have become of the resources, wherever the operation stands.** -/
theorem Stands.leaving (stands : Stands start moves session) :
    ∃ kept scrapped underway swept, Leaving start moves session kept scrapped underway swept := by
  cases stands with
  | handing handing => exact handing.leaving
  | staying staying => exact ⟨_, _, _, _, staying.leaving⟩
  | sweeping sweeping => exact ⟨_, _, _, _, sweeping.leaving⟩

/-- Such an operation is the only one, and what it lends goes into no guard. -/
theorem Stands.alone (stands : Stands start moves session) :
    session.running.length ≤ 1 ∧
      ∀ activity ∈ session.running, ∀ key, activity.purpose ≠ .guarding key := by
  cases stands with
  | handing handing =>
    rw [handing.running_eq]
    exact ⟨Nat.le_refl 1, by simpa using handing.silent⟩
  | staying staying =>
    rw [staying.running_eq]
    exact ⟨Nat.zero_le 1, nofun⟩
  | @sweeping kept scrapped swept entries result sweeping =>
    rw [sweeping.running_eq]
    cases entries with
    | nil => exact ⟨Nat.zero_le 1, nofun⟩
    | cons entry rest =>
      refine ⟨Nat.le_refl 1, fun activity hactivity key => ?_⟩
      cases List.mem_singleton.mp hactivity
      exact nofun

/-! ## The pool -/

/-- A deed of a hand-back, when nothing has been done before. -/
theorem left_of_does {key : κ} (about : start.yields.map Prod.fst = [key]) (pool : Pool κ ω ε)
    (sound : pool.store.Sound) (same : pool.store.holding = start.before.pool.store.holding)
    (idle_le : pool.store.totalIdle ≤ start.before.pool.store.totalIdle)
    {hand : Hand κ ω} {deed : Deed κ ω} (does : Pool.Turn.Does pool hand turn deed)
    (sound' : turn.1.store.Sound) (returns : deed.Returns key) :
    Left start deed.entries turn.1 := by
  have hholding : ∀ place, turn.1.store.holding place =
      deed.on pool.store.selection place (start.before.pool.store.holding place) := by
    intro place
    rw [does.holding_eq, same]
  have hmade := fun place => returns.on_eq pool.store.selection place
    (start.before.pool.store.holding place)
  refine ⟨?_, ?_, ?_⟩
  · intro place
    have hidle := (hmade place).1
    rw [← hholding] at hidle
    exact hidle
  · intro place
    obtain ⟨-, hle, hge⟩ := hmade place
    rw [← hholding] at hle hge
    have hyields : (listedUnder place start.yields).length = if key = place then 1 else 0 := by
      obtain ⟨⟨other, resource⟩, hyields, rfl⟩ := List.map_eq_singleton_iff.mp about
      rw [hyields]
      by_cases hplace : other = place <;> simp [listedUnder, hplace]
    unfold Pool.numActive
    rw [Store.numActive_eq, Store.numActive_eq, hyields]
    exact ⟨hle, hge⟩
  · have hstock := does.stock_le sound sound'
    have hkept : deed.kept = deed.entries.length := by
      cases returns <;> rfl
    omega

/-- Nothing more is done. -/
theorem Left.same {kept : List (κ × ω)} {pool other : Pool κ ω ε} (left : Left start kept pool)
    (same : other.store.holding = pool.store.holding)
    (idle_le : other.store.totalIdle ≤ pool.store.totalIdle) : Left start kept other := by
  refine ⟨?_, left.loans.of_active fun key => by rw [same], idle_le.trans left.idle_le⟩
  intro key
  rw [← left.queue_eq key]
  exact congrArg (fun holding => (holding key).idle) same

/-! ## The ends of steps -/

/-- The pool closes, and the operation waits for what the closing waits for. -/
theorem tells_closing (session : Session κ ω ε) (turn : Pool.Turn κ ω ε)
    (running : session.running = []) :
    (session.closing turn).1.running = turn.2.stages.map (fun stage => ⟨stage, .plain⟩) ∧
      (session.closing turn).1.newCall? (session.closing turn).2 = turn.2.request? := by
  obtain ⟨pool, progress⟩ := turn
  cases progress with
  | waiting stage => exact ⟨rfl, rfl⟩
  | finished result => exact ⟨running, rfl⟩

/-- The calls of a sweep. -/
theorem destroys_swept (entries : List (κ × ω)) (result : Result ω ε) :
    (Pool.swept entries result).request?.toList.flatMap Request.destroys = entries.take 1 := by
  cases entries <;> rfl

/-- An operation that waits after a turn. -/
theorem waits_of_ends (ends : base.Ends purpose turn outcome) {stage : Stage κ ω ε}
    (waits : turn.2 = .waiting stage) :
    outcome =
      ({ base with pool := turn.1, running := ⟨stage, purpose⟩ :: base.running }, none) := by
  cases ends with
  | waits =>
    cases waits
    rfl
  | _ => cases waits

/-- **A pool that nothing keeps alive has closed**, and everything that was idle is given to the
factory, one resource after another. -/
structure Deserted (pool : Pool κ ω ε) (outcome : Session κ ω ε × Option (Reply ω ε))
    (entries : List (κ × ω)) (result : Result ω ε) : Prop where
  running_eq : outcome.1.running =
    (Pool.swept entries result).stages.map fun stage => ⟨stage, .plain⟩
  call_eq : outcome.1.newCall? outcome.2 = (Pool.swept entries result).request?
  handles : outcome.1.handles = 0
  guards : outcome.1.guards = []
  closed : outcome.1.pool.isClosed = true
  holding_eq : ∀ key, outcome.1.pool.store.holding key = (pool.store.holding key).emptied
  listed : ∀ key, listedUnder key entries = (pool.store.live key).idle.reverse
  length_eq : entries.length = pool.store.totalIdle

/-- **When an operation is over** that is all, or the pool closes because nothing keeps it alive. -/
theorem over_of_ends (ends : base.Ends purpose turn outcome) {result : Result ω ε}
    (finishes : turn.2 = .finished result) (silent : ∀ key, purpose ≠ .guarding key)
    (running : base.running = []) (isOpen : turn.1.isClosed = false) (sound : turn.1.store.Sound) :
    (outcome.1.running = [] ∧ outcome.1.newCall? outcome.2 = none ∧
      (outcome.1.handles ≠ 0 ∨ outcome.1.guards ≠ []) ∧ outcome.1.pool.isClosed = false ∧
      outcome.1.pool.store = turn.1.store) ∨
    ∃ entries final, Deserted turn.1 outcome entries final := by
  cases ends with
  | waits => cases finishes
  | guarded purpose_eq => exact absurd purpose_eq (silent _)
  | @told pool final referenced =>
    have hreferenced : base.handles ≠ 0 ∨ base.guards ≠ [] := by
      simpa [isReferenced, running] using referenced
    exact .inl ⟨running, rfl, hreferenced, (isClosed_conclusion purpose pool final).trans isOpen,
      store_conclusion purpose pool final⟩
  | @closes pool final handles guards running =>
    have hsound : (conclusion purpose pool final).1.store.Sound := by
      rw [store_conclusion]
      exact sound
    have hopen : (conclusion purpose pool final).1.isClosed = false := by
      rw [isClosed_conclusion]
      exact isOpen
    obtain ⟨hclosed, -, hempty, entries, hswept, hlisted, hlength⟩ :=
      Pool.close_swept hsound hopen (conclusion purpose pool final).2
    rw [store_conclusion] at hempty hlisted hlength
    obtain ⟨hrunning, hcall⟩ := tells_closing
      { base with pool := (conclusion purpose pool final).1 }
      ((conclusion purpose pool final).1.close (conclusion purpose pool final).2) running
    rw [hswept] at hrunning hcall
    refine .inr ⟨entries, (conclusion purpose pool final).2, hrunning, hcall, ?_, ?_, ?_, ?_,
      hlisted, hlength⟩
    · rw [handles_closing]
      exact handles
    · rw [guards_closing]
      exact guards
    · rw [pool_closing]
      exact hclosed
    · rw [pool_closing]
      exact hempty

/-- **The operation of a hand-back is over.** -/
theorem stands_of_over {event : Event κ ω ε} {reply : Option (Reply ω ε)}
    (ends : base.Ends purpose turn (next, reply)) {result : Result ω ε}
    (finishes : turn.2 = .finished result) (silent : ∀ key, purpose ≠ .guarding key)
    (running : base.running = []) (isOpen : turn.1.isClosed = false) (sound : turn.1.store.Sound)
    {kept scrapped : List (κ × ω)}
    (yielded : List.Forall₂ (Evolves (⟨session, event, next, reply⟩ :: moves)) start.yields
      (kept ++ scrapped))
    (destroyed : destructions moves = scrapped) (left : Left start kept turn.1)
    (length_le : moves.length + 1 + kept.length ≤ 4) :
    Stands start (⟨session, event, next, reply⟩ :: moves) next := by
  rcases over_of_ends ends finishes silent running isOpen sound with
    ⟨hrunning, hcall, hreferenced, hopen, hstore⟩ | ⟨entries, final, hdeserted⟩
  · have hdestroyed : destructions (⟨session, event, next, reply⟩ :: moves) = scrapped := by
      have hnone : (Move.mk session event next reply).asked? = none := hcall
      rw [destructions_cons, Move.destroys, hnone, destroyed]
      rfl
    refine .staying ⟨hrunning, hreferenced, hopen, yielded, hdestroyed, left.same ?_ ?_⟩
    · rw [show next.pool.store = turn.1.store from hstore]
    · rw [show next.pool.store = turn.1.store from hstore]
  · have hdestroyed : destructions (⟨session, event, next, reply⟩ :: moves) =
        entries.take 1 ++ scrapped := by
      have hswept : (Move.mk session event next reply).asked? =
          (Pool.swept entries final).request? := hdeserted.call_eq
      rw [destructions_cons, Move.destroys, hswept, destroys_swept, destroyed]
    have hloans : LoansStay start next.pool := by
      apply left.loans.of_active
      intro key
      rw [show next.pool.store.holding key = _ from hdeserted.holding_eq key]
      rfl
    refine .sweeping ⟨hdeserted.running_eq, hdeserted.handles, hdeserted.guards, hdeserted.closed,
      ?_, yielded, hdestroyed, ?_, hloans, ?_⟩
    · intro key
      exact congrArg Holding.idle (hdeserted.holding_eq key)
    · intro key
      have hsplit : entries.tail.reverse ++ entries.take 1 = entries.reverse := by
        cases entries <;> simp
      have hreversed : listedUnder key entries.reverse = (listedUnder key entries).reverse := by
        simp [listedUnder, List.filter_reverse, List.map_reverse]
      rw [hsplit, hreversed, hdeserted.listed key, List.reverse_reverse, left.queue_eq key]
    · have hidle := left.idle_le
      rw [List.length_cons, hdeserted.length_eq]
      omega

/-! ## Moves -/

/-- A closed pool that nothing keeps alive stays as it is, and the operation waits for what its turn
waits for. -/
theorem tells_of_closed (ends : base.Ends .plain turn outcome) (running : base.running = [])
    (closed : turn.1.isClosed = true) :
    outcome.1.running = turn.2.stages.map (fun stage => ⟨stage, .plain⟩) ∧
      outcome.1.newCall? outcome.2 = turn.2.request? ∧ outcome.1.pool.store = turn.1.store ∧
      outcome.1.handles = base.handles ∧ outcome.1.guards = base.guards := by
  cases ends with
  | waits => exact ⟨congrArg (List.cons _) running, rfl, rfl, rfl, rfl⟩
  | guarded purpose_eq => cases purpose_eq
  | told => exact ⟨running, rfl, rfl, rfl, rfl⟩
  | @closes pool result =>
    have hclosed : (conclusion (.plain : Purpose κ) pool result).1.isClosed = true := closed
    rw [Pool.close_of_closed _ hclosed]
    exact ⟨running, rfl, rfl, rfl, rfl⟩

/-- The call for a resource on its way back is to destroy it, or there are more calls to come. -/
theorem destroys_of_handsBack {stage : Stage κ ω ε} {key : κ} {object : ω}
    (handsBack : stage.HandsBack key object) :
    stage.request.destroys = if stage.patience = 1 then [(key, object)] else [] := by
  cases handsBack <;> rfl

/-- A change of a resource by an answer is among the changes of the move. -/
theorem changes_of_leaves {answer : Answer ω ε} {stage : Stage κ ω ε} {object changed : ω}
    (request : session.request? = some stage.request)
    (leaves : answer.Leaves stage.request object changed) (next : Session κ ω ε)
    (reply : Option (Reply ω ε)) :
    changed = object ∨
      (object, changed) ∈ (Move.mk session (.answer answer) next reply).changes := by
  rcases leaves with hsame | ⟨hstep, hobject, hanswer⟩
  · exact .inl hsame
  · right
    show (object, changed) ∈ session.request?.toList.flatMap fun request => request.changes answer
    rw [request, Option.toList_some, List.flatMap_singleton]
    cases hcall : stage.request <;> rw [hcall] at hstep hobject <;> cases hstep
    cases hobject
    rcases hanswer with rfl | rfl <;> exact List.mem_singleton_self _

/-- **One more answer for a resource on its way back.** -/
theorem Handing.answered {stage : Stage κ ω ε} {entry : κ × ω} {object : ω}
    (handing : Handing start moves session stage purpose entry object)
    (inOrder : InOrder config session) {answer : Answer ω ε} {reply : Option (Reply ω ε)}
    (calm : ∀ reason, answer ≠ .panicked reason)
    (lasts : Pool.Turn.Lasts session.pool (session.pool.resume stage answer))
    (sound : (session.pool.resume stage answer).1.store.Sound)
    (ends : Ends { session with running := [] } purpose (session.pool.resume stage answer)
      (next, reply)) :
    Stands start (⟨session, .answer answer, next, reply⟩ :: moves) next := by
  obtain ⟨running_eq, silent, isOpen, handsBack, yields_eq, evolves, destroyed, left, untouched,
    length_le⟩ := handing
  have hordered := inOrder.orderly
  have hmem : stage ∈ session.stages := by simp [stages, running_eq]
  have hopen : (session.pool.resume stage answer).1.isClosed = false :=
    lasts.isClosed_eq.trans isOpen
  have hrequest : session.request? = some stage.request := by simp [request?, running_eq]
  have habout : start.yields.map Prod.fst = [entry.1] := by rw [yields_eq, List.map_singleton]
  have hdestroys := destroys_of_handsBack handsBack
  rcases session.pool.resume_handsBack hordered.sound handsBack (hordered.stands _ hmem) calm with
    ⟨following, changed, deed, hwaits, hfollows, hleaves, hlt, hdoes, hdeed⟩ |
    ⟨changed, hover, hlt, hleaves, hdoes⟩ | ⟨result, hover, hlast, hdoes⟩
  · have hpatience : 0 < following.patience := by
      cases hfollows <;> simp [Stage.patience]
    have hearly : 1 < stage.patience := by omega
    rw [if_neg (Nat.ne_of_gt hearly)] at hdestroys
    obtain ⟨hreturns, hnothing, huntouched⟩ := hdoes.begins hdeed
    have hleft := left_of_does habout (session.pool.hear stage answer) hordered.sound
      (untouched hearly) left.idle_le hdoes sound hreturns
    rw [hnothing] at hleft
    cases waits_of_ends ends hwaits
    refine .handing ⟨rfl, silent, hopen, hfollows, yields_eq,
      evolves.cons (changes_of_leaves hrequest hleaves _ none), ?_, hleft,
      fun hmore => (huntouched hmore).trans (untouched hearly), ?_⟩
    · rw [destructions_cons, destroyed, hdestroys, List.append_nil]
      exact List.append_nil _
    · rw [List.length_cons]
      omega
  · rw [if_neg (Nat.ne_of_gt hlt)] at hdestroys
    have hevolves := evolves.cons (changes_of_leaves hrequest hleaves next reply)
    have hleft := left_of_does habout (session.pool.hear stage answer) hordered.sound
      (untouched hlt) left.idle_le hdoes sound (.putBack changed)
    have hyielded : List.Forall₂ (Evolves (⟨session, .answer answer, next, reply⟩ :: moves))
        start.yields ([(entry.1, changed)] ++ []) := by
      rw [yields_eq]
      exact .cons hevolves .nil
    refine stands_of_over ends hover silent rfl hopen sound hyielded (destroyed.trans hdestroys)
      hleft ?_
    rw [List.length_singleton]
    omega
  · rw [if_pos hlast] at hdestroys
    have hyielded : List.Forall₂ (Evolves (⟨session, .answer answer, next, reply⟩ :: moves))
        start.yields ([] ++ [(entry.1, object)]) := by
      rw [yields_eq]
      exact .cons (evolves.cons (.inl rfl)) .nil
    have hsame : (session.pool.resume stage answer).1.store.holding =
        session.pool.store.holding := hdoes.holding_of_nothing
    have hidle : (session.pool.resume stage answer).1.store.totalIdle ≤
        session.pool.store.totalIdle :=
      hdoes.stock_le hordered.sound sound
    refine stands_of_over ends hover silent rfl hopen sound hyielded (destroyed.trans hdestroys)
      (left.same hsame hidle) ?_
    rw [List.length_nil]
    omega

/-- **One more answer while the pool is swept.** -/
theorem Sweeping.answered {kept scrapped swept entries : List (κ × ω)} {result : Result ω ε}
    (sweeping : Sweeping start moves session kept scrapped swept entries result)
    {answer : Answer ω ε} {reply : Option (Reply ω ε)} (calm : ∀ reason, answer ≠ .panicked reason)
    {activity : Activity κ ω ε} {rest : List (Activity κ ω ε)}
    (running : session.running = activity :: rest)
    (ends : Ends { session with running := rest } activity.purpose
      (session.pool.resume activity.stage answer) (next, reply)) :
    Stands start (⟨session, .answer answer, next, reply⟩ :: moves) next := by
  obtain ⟨running_eq, handles, guards, closed, empty, yielded, destroyed, swept_eq, loans,
    length_le⟩ := sweeping
  rw [running] at running_eq
  cases entries with
  | nil => cases running_eq
  | cons entry others =>
    cases running_eq
    obtain ⟨hprogress, hstore⟩ :=
      session.pool.resume_sweep entry.1 entry.2 others result calm
    have hclosed : (session.pool.resume (.destroying entry.1 entry.2
        (.quietly (.sweep others result))) answer).1.isClosed = true := by
      unfold Pool.isClosed
      rw [hstore]
      exact closed
    obtain ⟨hrunning, hcall, hsame, hhandles, hguards⟩ := tells_of_closed ends rfl hclosed
    rw [hprogress] at hrunning hcall
    have hpool : next.pool.store = session.pool.store := hsame.trans hstore
    have hdestroys : (Move.mk session (.answer answer) next reply).destroys = others.take 1 := by
      have hasked : (Move.mk session (.answer answer) next reply).asked? =
          (Pool.swept others result).request? := hcall
      rw [Move.destroys, hasked, destroys_swept]
    have hdestroyed : destructions (⟨session, .answer answer, next, reply⟩ :: moves) =
        (others.take 1 ++ swept) ++ scrapped := by
      rw [destructions_cons, hdestroys, destroyed, List.append_assoc]
    have hyielded : List.Forall₂ (Evolves (⟨session, .answer answer, next, reply⟩ :: moves))
        start.yields (kept ++ scrapped) :=
      yielded.imp fun _ _ h => h.cons (.inl rfl)
    refine .sweeping ⟨hrunning, hhandles.trans handles, hguards.trans guards, ?_, ?_, hyielded,
      hdestroyed, ?_, loans.of_active fun key => by rw [hpool], ?_⟩
    · unfold Pool.isClosed
      rw [hpool]
      exact closed
    · intro key
      unfold queue
      rw [hpool]
      exact empty key
    · intro key
      rw [← swept_eq key]
      cases others <;> simp
    · rw [List.length_cons] at length_le ⊢
      omega

/-- **One more answer** to such an operation. -/
theorem Stands.answered (stands : Stands start moves session) (inOrder : InOrder config session)
    {answer : Answer ω ε} {reply : Option (Reply ω ε)} (calm : ∀ reason, answer ≠ .panicked reason)
    (step : session.step? (.answer answer) = some (next, reply)) :
    Stands start (⟨session, .answer answer, next, reply⟩ :: moves) next := by
  obtain ⟨base, purpose, turn, hopens, heq⟩ := opens_of_step? step
  have hends := base.ends_advance purpose turn
  rw [← heq] at hends
  have hsound := (hopens.orderly inOrder).sound
  have hlasts := hopens.lasts inOrder rfl
  cases hopens with
  | @resume _ activity rest running =>
    cases stands with
    | handing handing =>
      have hrunning := handing.running_eq
      rw [running] at hrunning
      cases hrunning
      exact handing.answered inOrder calm hlasts hsound hends
    | staying staying =>
      have hrunning := staying.running_eq
      rw [running] at hrunning
      cases hrunning
    | sweeping sweeping => exact sweeping.answered calm running hends

/-! ## Beginnings -/

/-- By a leaving action a handle is dropped, or the resource of a guard comes back. -/
theorem spent_of_leaves {action : Action κ ω} (leaves : action.leaves = true)
    (allowed : session.act? action = some outcome) :
    (action = .dropHandle ∧ session.operation? action = none ∧ session.spent? action = none) ∨
    ∃ guard operation, session.spent? action = some guard ∧
      session.operation? action = some operation ∧
      (operation = .giveBack guard.key guard.object ∨
        operation = .invalidate guard.key guard.object) ∧
      ∀ key, session.purposeOf action ≠ .guarding key := by
  have hthere : ∀ {id} {make : Guard κ ω → Session κ ω ε × Option (Reply ω ε)},
      (session.guard? id).map make = some outcome → ∃ guard, session.guard? id = some guard := by
    intro id make hmap
    obtain ⟨guard, hguard, -⟩ := Option.map_eq_some_iff.mp hmap
    exact ⟨guard, hguard⟩
  cases action with
  | dropHandle => exact .inl ⟨rfl, rfl, rfl⟩
  | release id =>
    obtain ⟨guard, hguard⟩ := hthere allowed
    exact .inr ⟨guard, _, hguard, by simp [operation?, hguard], .inl rfl, by simp [purposeOf]⟩
  | invalidate id =>
    obtain ⟨guard, hguard⟩ := hthere allowed
    exact .inr ⟨guard, _, hguard, by simp [operation?, hguard], .inr rfl, by simp [purposeOf]⟩
  | dropGuard id =>
    obtain ⟨guard, hguard⟩ := hthere allowed
    refine .inr ⟨guard, _, hguard, by simp [operation?, hguard], .inl rfl, fun key => ?_⟩
    simp [purposeOf, hguard]
  | _ => cases leaves

/-- Before anything is done, everything is there. -/
theorem Left.refl (start : Move κ ω ε) : Left start [] start.before.pool :=
  ⟨fun _ => rfl, fun _ => ⟨Nat.le_refl _, Nat.le_add_right _ _⟩, Nat.le_refl _⟩

/-- **A handle or a guard goes.** -/
theorem stands_of_leaves (inOrder : InOrder config session) (isOpen : session.pool.isClosed = false)
    (rest : session.running = []) {action : Action κ ω} (leaves : action.leaves = true)
    {reply : Option (Reply ω ε)} (step : session.step? (.act action) = some (next, reply)) :
    Stands ⟨session, .act action, next, reply⟩ [⟨session, .act action, next, reply⟩] next := by
  obtain ⟨base, purpose, turn, hopens, heq⟩ := opens_of_step? step
  have hends := base.ends_advance purpose turn
  rw [← heq] at hends
  have hsound := (hopens.orderly inOrder).sound
  have hcloses : Event.closes (.act action : Event κ ω ε) = false := by
    cases action <;> first | rfl | cases leaves
  have hlasts := hopens.lasts inOrder hcloses
  have hopen := hlasts.isClosed_eq.trans isOpen
  have hrunning : (session.prepare action).running = [] := (running_prepare _ _).trans rest
  rcases spent_of_leaves leaves step with
    ⟨rfl, hnone, hspent⟩ | ⟨guard, operation, hspent, hstarts, hcomes, hsilent⟩
  · cases hopens with
    | start starts =>
      rw [hnone] at starts
      cases starts
    | aside other =>
      have hyielded : List.Forall₂ (Evolves [⟨session, .act .dropHandle, next, reply⟩])
          (Move.mk session (.act .dropHandle) next reply).yields ([] ++ []) := .nil
      exact stands_of_over hends rfl (fun _ => nofun) hrunning hopen hsound hyielded rfl (.refl _)
        (Nat.le_add_left 1 3)
  · cases hopens with
    | aside other =>
      rw [hstarts] at other
      cases other
    | start starts =>
      cases hstarts.symm.trans starts
      obtain ⟨stage, deed, hwaits, hhandsBack, hdoes, hdeed⟩ :=
        session.pool.start_handsBack inOrder.orderly.sound hcomes
      obtain ⟨hreturns, hnothing, huntouched⟩ := hdoes.begins hdeed
      have hpatience : stage.patience ≤ 3 := by
        cases hhandsBack <;> simp [Stage.patience]
      have hyields : (Move.mk session (.act action) next reply).yields =
          [(guard.key, guard.object)] := by
        simp [Move.yields, hspent]
      have habout :
          (Move.mk session (.act action) next reply).yields.map Prod.fst = [guard.key] := by
        rw [hyields, List.map_singleton]
      have hleft := left_of_does habout session.pool inOrder.orderly.sound rfl (Nat.le_refl _) hdoes
        hsound hreturns
      rw [hnothing] at hleft
      cases waits_of_ends hends hwaits
      refine .handing ⟨?_, hsilent, hopen, hhandsBack, hyields, .refl _ _, ?_, hleft, huntouched,
        ?_⟩
      · rw [hrunning]
      · show stage.request.destroys ++ [] ++ [] = stage.request.destroys
        rw [List.append_nil, List.append_nil]
      · rw [List.length_singleton]
        omega

end stands

/-! ## Histories -/

section histories

variable {config : Config} {log past later : List (Move κ ω ε)} {start : Move κ ω ε}
  {session : Session κ ω ε}

/-- Clients can only do something while the pool is open. -/
theorem open_of_act? {outcome : Session κ ω ε × Option (Reply ω ε)} {action : Action κ ω}
    (living : Living session) (allowed : session.act? action = some outcome) :
    session.pool.isClosed = false := by
  cases hclosed : session.pool.isClosed with
  | false => rfl
  | true =>
    rw [act?_of_unreferenced (living.handles hclosed) (living.guards hclosed) action] at allowed
    cases allowed

/-- An answer changes neither the handles nor the guards, unless an operation lends into a guard. -/
theorem parties_of_answer {next : Session κ ω ε} {answer : Answer ω ε} {reply : Option (Reply ω ε)}
    (silent : ∀ activity ∈ session.running, ∀ key, activity.purpose ≠ .guarding key)
    (step : session.step? (.answer answer) = some (next, reply)) :
    next.handles = session.handles ∧ next.guards = session.guards := by
  obtain ⟨activity, rest, hrunning, heq⟩ := answer?_cases step
  have hends := ends_advance { session with running := rest } activity.purpose
    (session.pool.resume activity.stage answer)
  rw [← heq] at hends
  have hmem : activity ∈ session.running := by simp [hrunning]
  refine ⟨handles_of_ends hends, ?_⟩
  rcases guards_of_ends hends with ⟨hsame, -⟩ | ⟨key, -, hguarding, -⟩
  · exact hsame
  · exact absurd hguarding (silent activity hmem key)

/-- **Wherever an operation stands that is about a handle or a guard that goes**, the answers so far
have led it there; and they have changed neither the handles nor the guards. -/
theorem stands_of_history (history : History config (later ++ start :: past) session)
    (calm : Calm (later ++ start :: past)) (unclosed : Unclosed (later ++ start :: past))
    {action : Action κ ω} (acts : start.event = .act action) (leaves : action.leaves = true)
    (rest : start.before.running = []) (answers : ∀ move ∈ later, move.event.isAnswer = true) :
    Stands start (later ++ [start]) session ∧ session.handles = start.after.handles ∧
      session.guards = start.after.guards := by
  induction later generalizing session with
  | nil =>
    cases history with
    | @step _ before _ event reply earlier hstep =>
      cases acts
      have hliving := living_of_history earlier fun move hmove =>
        unclosed move (List.mem_cons_of_mem _ hmove)
      exact ⟨stands_of_leaves (reachable_inOrder earlier.reachable) (open_of_act? hliving hstep)
        rest leaves hstep, rfl, rfl⟩
  | cons move later ih =>
    rw [List.cons_append] at history
    cases history with
    | @step _ before _ event reply earlier hstep =>
      obtain ⟨hstands, hhandles, hguards⟩ := ih earlier
        (fun move hmove => calm move (List.mem_cons_of_mem _ hmove))
        (fun move hmove => unclosed move (List.mem_cons_of_mem _ hmove))
        (fun move hmove => answers move (List.mem_cons_of_mem _ hmove))
      cases event with
      | act action => cases answers _ List.mem_cons_self
      | answer answer =>
        have hcalm : ∀ reason, answer ≠ .panicked reason := by
          rintro reason rfl
          cases calm _ List.mem_cons_self
        obtain ⟨hsame, hlasting⟩ := parties_of_answer hstands.alone.2 hstep
        exact ⟨hstands.answered (reachable_inOrder earlier.reachable) hcalm hstep,
          hsame.trans hhandles, hlasting.trans hguards⟩

end histories

end Session

end ResourcePool
