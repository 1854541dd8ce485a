import ResourcePool.Proofs.Lifecycle
import ResourcePool.Proofs.Store.Live
import ResourcePool.Session

/-!
# Histories of a session

What can be seen of a session from outside: the actions of its clients and the replies to them, the
calls of the factory and the answers to those. Everything that the theorems about a whole run speak
of is read off a history, and not off the state of the pool.

* `Move`, `History` — the moves that led to a session, the latest first.
* `pending` — the actions in progress; a reply belongs to the innermost of them.
* `created`, `destroyed`, `loans` — the ledgers of a history, by the names of the resources.
* `trace` — what happened to every single resource.
* `Calm`, `Linear`, `KeepsNames`, `FreshNames` — what is asked of the factory and of the clients.
-/

set_option linter.unusedSectionVars false

namespace ResourcePool

variable {κ ω ε ι : Type}

/-! ## What actions and answers tell -/

/-- What the answer to a call tells about the resource that the call is for. -/
def Request.verdict : Request κ ω → Answer ω ε → List (κ × ω × Mark)
  | activate key object, .done _ | activate key object, .refused _
  | passivate key object, .done _ | passivate key object, .refused _
  | validate key object, .done _ => [(key, (object, .succeeded))]
  | validate key object, .refused _ => [(key, (object, .rejected))]
  | activate key object, .failed _ | passivate key object, .failed _
  | validate key object, .failed _ => [(key, (object, .failed))]
  | _, _ => []

/-- What the answer to the call of an operation tells about a resource, a new one included. -/
def Stage.report : Stage κ ω ε → Answer ω ε → List (κ × ω × Mark)
  | creating checkout _, .done object | creating checkout _, .refused object =>
    [(checkout.key, (object, .created false))]
  | making key _, .done object | making key _, .refused object =>
    [(key, (object, .created true))]
  | stage, answer => stage.request.verdict answer

/-- The answers that tell of a new resource are those to a creation. -/
theorem Stage.report_made (stage : Stage κ ω ε) (answer : Answer ω ε) :
    (stage.report answer).filterMap made? =
      match stage.request, answer with
      | .create key, .done object | .create key, .refused object => [(key, object)]
      | _, _ => [] := by
  cases stage <;> cases answer <;> rfl

/-- The resource that a call is for. -/
def Request.marks (request : Request κ ω) : List (κ × ω × Mark) :=
  request.object?.toList.map fun object => (request.key, (object, .called request.step))

/-- The resource that a call is to destroy. -/
def Request.destroys : Request κ ω → List (κ × ω)
  | destroy key object => [(key, object)]
  | _ => []

/-- The resource whose state the answer to a call changes, before and after that. -/
def Request.changes : Request κ ω → Answer ω ε → List (ω × ω)
  | activate _ object, .done changed | activate _ object, .refused changed
  | passivate _ object, .done changed | passivate _ object, .refused changed => [(object, changed)]
  | _, _ => []

/-- The resource that comes back with an operation. -/
def Operation.marks (isClosed : Bool) : Operation κ ω → List (κ × ω × Mark)
  | giveBack key object => [(key, (object, .returned !isClosed))]
  | invalidate key object => [(key, (object, .invalidated))]
  | _ => []

/-- The start of an operation creates nothing. -/
theorem Operation.marks_made (operation : Operation κ ω) (isClosed : Bool) :
    (operation.marks isClosed).filterMap made? = [] := by
  cases operation <;> rfl

namespace Action

/-- The resource that a client hands back itself. -/
def handsBack : Action κ ω → List (κ × ω)
  | call (.giveBack key object) | call (.invalidate key object) => [(key, object)]
  | _ => []

/-- The resource that the reply to an action lends to the client itself. -/
def lends : Action κ ω → Option (Reply ω ε) → List (κ × ω)
  | call (.borrow key), some (.result (.lent object)) => [(key, object)]
  | _, _ => []

/-- The resource that the reply to an action lends, to the client itself or in a guard. -/
def handsOut : Action κ ω → Option (Reply ω ε) → List (κ × ω)
  | call (.borrow key), some (.result (.lent object)) => [(key, object)]
  | get key, some (.guarded _ object) => [(key, object)]
  | _, _ => []

end Action

namespace Session

variable [DecidableEq κ]

/-- The resource that comes back with an action, by the client itself or out of a guard. -/
def returns (session : Session κ ω ε) : Action κ ω → List (κ × ω × Mark)
  | .call operation => operation.marks session.pool.isClosed
  | .release id | .dropGuard id => (session.guard? id).toList.flatMap fun guard =>
    (Operation.giveBack guard.key guard.object).marks session.pool.isClosed
  | .invalidate id => (session.guard? id).toList.flatMap fun guard =>
    (Operation.invalidate guard.key guard.object).marks session.pool.isClosed
  | _ => []

/-! ## Moves and histories -/

/-- One event in a session and what came of it. -/
structure Move (κ ω ε : Type) where
  /-- The session before. -/
  before : Session κ ω ε
  /-- The event. -/
  event : Event κ ω ε
  /-- The session afterwards. -/
  after : Session κ ω ε
  /-- The reply, if an action came to its end. -/
  reply : Option (Reply ω ε)

/-- **The moves that lead to a session** from a new pool, the latest first. -/
inductive History (config : Config) : List (Move κ ω ε) → Session κ ω ε → Prop where
  | create (walk : Walk κ) : History config [] (create config walk)
  | step {log : List (Move κ ω ε)} {session next : Session κ ω ε} {event : Event κ ω ε}
      {reply : Option (Reply ω ε)} :
      History config log session → session.step? event = some (next, reply) →
      History config (⟨session, event, next, reply⟩ :: log) next

/-- A session with a history can be reached. -/
theorem History.reachable {config : Config} {log : List (Move κ ω ε)} {session : Session κ ω ε}
    (history : History config log session) : Reachable config session := by
  induction history with
  | create walk => exact .create walk
  | step _ hstep ih => exact ih.step hstep

/-- Every move of a history is a step from a reachable session. -/
theorem History.step_of_mem {config : Config} {log : List (Move κ ω ε)} {session : Session κ ω ε}
    (history : History config log session) {move : Move κ ω ε} (mem : move ∈ log) :
    Reachable config move.before ∧
      move.before.step? move.event = some (move.after, move.reply) := by
  induction history with
  | create => cases mem
  | step past hstep ih =>
    rcases List.mem_cons.mp mem with rfl | hpast
    · exact ⟨past.reachable, hstep⟩
    · exact ih hpast

/-- Every reachable session has a history. -/
theorem exists_history {config : Config} {session : Session κ ω ε}
    (reachable : Reachable config session) : ∃ log, History config log session := by
  induction reachable with
  | create walk => exact ⟨[], .create walk⟩
  | step _ hstep ih =>
    obtain ⟨log, hlog⟩ := ih
    exact ⟨_, hlog.step hstep⟩

/-- Adds the move that an event makes to a history. -/
def extend (past : List (Move κ ω ε) × Session κ ω ε) (event : Event κ ω ε) :
    Option (List (Move κ ω ε) × Session κ ω ε) :=
  (past.2.step? event).map fun outcome =>
    (⟨past.2, event, outcome.1, outcome.2⟩ :: past.1, outcome.1)

/-- Plays events, the earliest first, on a new pool that goes through its keys in the order in which
they were linked. -/
def replay (config : Config) (events : List (Event κ ω ε)) :
    Option (List (Move κ ω ε) × Session κ ω ε) :=
  events.foldlM extend ([], create config .linking)

/-- Events that are played one after another extend a history. -/
theorem History.foldlM {config : Config} {past last : List (Move κ ω ε) × Session κ ω ε}
    (history : History config past.1 past.2) {events : List (Event κ ω ε)}
    (h : events.foldlM extend past = some last) : History config last.1 last.2 := by
  induction events generalizing past with
  | nil =>
    cases h
    exact history
  | cons event events ih =>
    obtain ⟨middle, hextend, hrest⟩ := Option.bind_eq_some_iff.mp h
    obtain ⟨⟨next, reply⟩, hstep, rfl⟩ := Option.map_eq_some_iff.mp hextend
    exact ih (history.step hstep) hrest

/-- What has been played is a history. -/
theorem history_of_replay {config : Config} {events : List (Event κ ω ε)}
    {log : List (Move κ ω ε)} {session : Session κ ω ε}
    (h : replay config events = some (log, session)) : History config log session :=
  (History.create .linking).foldlM h

/-! ## What is seen of a move -/

/-- The call that a session is left with by an event, if it is a new one: an event that ends an
action leaves the calls as they were. -/
def newCall? (session : Session κ ω ε) : Option (Reply ω ε) → Option (Request κ ω)
  | none => session.request?
  | some _ => none

/-- The actions in progress, the innermost first: an action is in progress from its start to its
reply. -/
def pending : List (Move κ ω ε) → List (Action κ ω)
  | [] => []
  | move :: log =>
    match move.event, move.reply with
    | .act action, none => action :: pending log
    | .answer _, some _ => (pending log).tail
    | _, _ => pending log

namespace Move

variable (move : Move κ ω ε)

/-- The call that the move leads to. -/
def asked? : Option (Request κ ω) := move.after.newCall? move.reply

/-- The call that the move answers, with the answer. -/
def answered? : Option (Request κ ω × Answer ω ε) :=
  match move.event with
  | .answer answer => move.before.request?.map fun request => (request, answer)
  | .act _ => none

/-- The action that a reply of the move belongs to. -/
def action? (log : List (Move κ ω ε)) : Option (Action κ ω) :=
  match move.event with
  | .act action => some action
  | .answer _ => (pending log).head?

/-- The resource that the factory created. -/
def creates : List (κ × ω) :=
  match move.answered? with
  | some (.create key, .done object) | some (.create key, .refused object) => [(key, object)]
  | _ => []

/-- The resource that the factory was called to destroy. -/
def destroys : List (κ × ω) := move.asked?.toList.flatMap Request.destroys

/-- The resource that a client handed back itself. -/
def handsBack : List (κ × ω) :=
  match move.event with
  | .act action => action.handsBack
  | .answer _ => []

/-- The resource whose state a step or the holder of its guard changes, before and after that. -/
def changes : List (ω × ω) :=
  match move.event with
  | .act (.touch id changed) =>
    (move.before.guard? id).toList.map fun guard => (guard.object, changed)
  | .act _ => []
  | .answer answer => move.before.request?.toList.flatMap fun request => request.changes answer

/-- The resource that was lent to the client itself. -/
def lends (log : List (Move κ ω ε)) : List (κ × ω) :=
  (move.action? log).toList.flatMap fun action => action.lends move.reply

/-- What happens to resources before the pool does anything: one comes back, or a call for it is
answered. -/
def opening : List (κ × ω × Mark) :=
  match move.event with
  | .act action => move.before.returns action
  | .answer answer => (move.before.running.head?.toList).flatMap fun activity =>
    activity.stage.report answer

/-- What the pool does with resources then: it hands one out, or calls the factory for it. -/
def ending (log : List (Move κ ω ε)) : List (κ × ω × Mark) :=
  (move.asked?.toList.flatMap Request.marks) ++
    ((move.action? log).toList.flatMap fun action => action.handsOut move.reply).map
      fun entry => (entry.1, (entry.2, .lent))

end Move

/-! ## Ledgers -/

section ledgers

variable (ident : ω → ι)

/-- The resources that were created under a key. -/
def created (key : κ) (log : List (Move κ ω ε)) : Multiset ι :=
  (under key (log.flatMap Move.creates)).map ident

/-- The resources that the factory was called to destroy under a key. -/
def destroyed (key : κ) (log : List (Move κ ω ε)) : Multiset ι :=
  (under key (log.flatMap Move.destroys)).map ident

/-- The resources that clients hold themselves under a key: those that were lent to them and not
handed back. -/
def loans [DecidableEq ι] (key : κ) : List (Move κ ω ε) → Multiset ι
  | [] => 0
  | move :: log => loans key log - (under key move.handsBack).map ident +
    (under key (move.lends log)).map ident

/-- The resources that are held in guards under a key. -/
def guarded (key : κ) (session : Session κ ω ε) : Multiset ι :=
  (under key (session.guards.map fun entry => (entry.2.key, entry.2.object))).map ident

/-- The idle resources of a key. -/
def idle (key : κ) (session : Session κ ω ε) : Multiset ι :=
  ((session.pool.store.live key).idle : Multiset ω).map ident

/-- What happenings tell, with the names of the resources. -/
def named {α : Type} (entries : List (κ × ω × α)) : List (κ × ι × α) :=
  entries.map fun entry => (entry.1, (ident entry.2.1, entry.2.2))

/-- Resources are named one by one. -/
theorem named_append {α : Type} (entries others : List (κ × ω × α)) :
    named ident (entries ++ others) = named ident entries ++ named ident others :=
  List.map_append

/-- **What happened to all resources**, the latest first. -/
def trace : List (Move κ ω ε) → List (κ × ι × Mark)
  | [] => []
  | move :: log => named ident (move.ending log ++ move.opening) ++ trace log

/-- A resource that comes back is not a new one. -/
theorem returns_made (session : Session κ ω ε) (action : Action κ ω) :
    (session.returns action).filterMap made? = [] := by
  have hguard : ∀ (found : Option (Guard κ ω)) (operation : Guard κ ω → Operation κ ω),
      (found.toList.flatMap fun guard =>
        (operation guard).marks session.pool.isClosed).filterMap made? = [] := by
    intro found operation
    cases found with
    | none => rfl
    | some guard =>
      rw [Option.toList_some, List.flatMap_singleton]
      exact Operation.marks_made _ _
  cases action with
  | call operation => exact Operation.marks_made _ _
  | release id => exact hguard _ fun guard => .giveBack guard.key guard.object
  | dropGuard id => exact hguard _ fun guard => .giveBack guard.key guard.object
  | invalidate id => exact hguard _ fun guard => .invalidate guard.key guard.object
  | _ => rfl

/-- A move begins with the creation of what it creates. -/
theorem Move.opening_made (move : Move κ ω ε) : move.opening.filterMap made? = move.creates := by
  obtain ⟨before, event, after, reply⟩ := move
  cases event with
  | act action => exact returns_made before action
  | answer answer =>
    unfold Move.opening Move.creates Move.answered? request?
    cases before.running with
    | nil => rfl
    | cons activity others =>
      have hone := Stage.report_made activity.stage answer
      simp only [List.head?_cons, Option.toList_some, List.flatMap_singleton, Option.map_some]
      rw [hone]
      cases activity.stage.request <;> cases answer <;> rfl

/-- What the pool does with resources then creates none. -/
theorem Move.ending_made (move : Move κ ω ε) (log : List (Move κ ω ε)) :
    (move.ending log).filterMap made? = [] := by
  apply List.filterMap_eq_nil_iff.mpr
  intro happening hending
  rcases List.mem_append.mp hending with hcall | hlent
  · obtain ⟨request, -, hmarks⟩ := List.mem_flatMap.mp hcall
    obtain ⟨object, -, rfl⟩ := List.mem_map.mp hmarks
    rfl
  · obtain ⟨lent, -, rfl⟩ := List.mem_map.mp hlent
    rfl

/-- The creations of some happenings, with the names of the resources. -/
theorem named_made (entries : List (κ × ω × Mark)) :
    (named ident entries).filterMap made? =
      (entries.filterMap made?).map fun entry => (entry.1, ident entry.2) := by
  unfold named
  rw [List.filterMap_map, List.map_filterMap]
  apply List.filterMap_congr
  intro entry _
  obtain ⟨key, object, mark⟩ := entry
  cases mark <;> rfl

/-- The creations that a trace tells of are those by the factory. -/
theorem trace_made (log : List (Move κ ω ε)) :
    (trace ident log).filterMap made? =
      (log.flatMap Move.creates).map fun entry => (entry.1, ident entry.2) := by
  induction log with
  | nil => rfl
  | cons move log ih =>
    show (named ident (move.ending log ++ move.opening) ++ trace ident log).filterMap made? = _
    rw [List.filterMap_append, named_made, List.filterMap_append, move.ending_made, List.nil_append,
      move.opening_made, ih, List.flatMap_cons, List.map_append]

/-- What the trace creates is what the factory created. -/
theorem made_trace (key : κ) (log : List (Move κ ω ε)) :
    made key (trace ident log) = created ident key log := by
  unfold made created
  rw [trace_made, under_map]

/-! ## What is asked of the factory and of the clients -/

/-- Whether an event is a panic of a factory step. -/
def Event.isPanic : Event κ ω ε → Bool
  | .answer (.panicked _) => true
  | _ => false

/-- No factory step panics. -/
def Calm (log : List (Move κ ω ε)) : Prop := ∀ move ∈ log, move.event.isPanic = false

/-- Clients hand back only what they hold, under the key that it was lent under. -/
def Linear [DecidableEq ι] : List (Move κ ω ε) → Prop
  | [] => True
  | move :: log => (∀ entry ∈ move.handsBack, ident entry.2 ∈ loans ident entry.1 log) ∧ Linear log

/-- A resource keeps its name when its state changes. -/
def KeepsNames (log : List (Move κ ω ε)) : Prop :=
  ∀ move ∈ log, ∀ change ∈ move.changes, ident change.2 = ident change.1

/-- Every resource that is created has a name of its own, whatever its key. -/
def FreshNames (log : List (Move κ ω ε)) : Prop :=
  ((log.flatMap Move.creates).map fun entry => ident entry.2).Nodup

/-- Whether no step has panicked can be decided. -/
instance (log : List (Move κ ω ε)) : Decidable (Calm log) :=
  inferInstanceAs (Decidable (∀ move ∈ log, _))

section

variable [DecidableEq ι]

/-- Whether clients hand back only what they hold can be decided. -/
instance : (log : List (Move κ ω ε)) → Decidable (Linear ident log)
  | [] => inferInstanceAs (Decidable True)
  | _ :: log =>
    have := instDecidableLinear log
    inferInstanceAs (Decidable (_ ∧ _))

/-- Whether resources keep their names can be decided. -/
instance (log : List (Move κ ω ε)) : Decidable (KeepsNames ident log) :=
  inferInstanceAs (Decidable (∀ move ∈ log, ∀ change ∈ move.changes, _))

/-- Whether every new resource has a new name can be decided. -/
instance (log : List (Move κ ω ε)) : Decidable (FreshNames ident log) :=
  inferInstanceAs (Decidable (List.Nodup _))

end

/-- If every new resource has a new name, then no name is created twice. -/
theorem distinct_trace {log : List (Move κ ω ε)} (fresh : FreshNames ident log) :
    Distinct (trace ident log) := by
  unfold Distinct
  rw [trace_made, List.map_map]
  exact fresh

end ledgers

end Session

end ResourcePool
