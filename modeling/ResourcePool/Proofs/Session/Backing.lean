import ResourcePool.Proofs.Pool.Backing
import ResourcePool.Proofs.Session.Absence
import ResourcePool.Proofs.Session.Closing
import ResourcePool.Proofs.Session.Failures
import ResourcePool.Proofs.Session.Runs

/-!
# Loans along a history

As long as clients hand back only what they hold, every resource that is with a client, in a guard
or on its way back is counted as a loan of its key, in the middle of any operations and whatever the
factory does. So an operation that takes a resource back always has a loan to give up.

* `WindsUp` — a session in which nothing refers to the pool any more, with `WindsUp.step`.
* `outstanding` — the resources of a key that are with clients and in guards.
* `Backed` — every one of them is counted, and so is every return in progress.
* `Poised`, `Turning` — the same before and after the turn that a step opens with, with
  `Poised.turning` between them and `Turning.ends` for the second half of the step.
* `Backed.opens`, `carries_of_history` — one more move, and a whole run.
-/

set_option linter.unusedSectionVars false

namespace ResourcePool.Session

variable {κ ω ε ι : Type} [DecidableEq κ]

/-! ## Sessions that wind up -/

/-- **Nothing refers to the pool any more** and it has closed. The operation that ended last waits
at most for what was idle to be destroyed, and its result is known. -/
structure WindsUp (session : Session κ ω ε) (result : Result ω ε) : Prop where
  handles : session.handles = 0
  guards : session.guards = []
  closed : session.pool.isClosed = true
  running : session.running = [] ∨
    ∃ stage : Stage κ ω ε, session.running = [⟨stage, .plain⟩] ∧ stage.Sweeps result

section windingUp

variable {session next : Session κ ω ε} {result : Result ω ε} {event : Event κ ω ε}
  {reply : Option (Reply ω ε)}

variable (session) in
/-- The pool closes because nothing refers to it, and then the result is told. -/
theorem windsUp_closing (handles : session.handles = 0) (guards : session.guards = [])
    (running : session.running = []) (sound : session.pool.store.Sound) (result : Result ω ε) :
    (session.closing (session.pool.close result)).1.WindsUp result ∧
      ((session.closing (session.pool.close result)).2 = none ∨
        (session.closing (session.pool.close result)).2 = some (.result result)) := by
  have hclosed : (session.pool.close result).1.isClosed = true := by
    cases hopen : session.pool.isClosed with
    | true =>
      rw [session.pool.close_of_closed hopen]
      exact hopen
    | false => exact (Pool.close_swept sound hopen result).1
  have hsweeps := session.pool.close_sweeps result
  generalize session.pool.close result = turn at hclosed hsweeps
  obtain ⟨pool, progress⟩ := turn
  rcases hsweeps with rfl | ⟨stage, rfl, hsweeps⟩
  · exact ⟨⟨handles, guards, hclosed, .inl running⟩, .inr rfl⟩
  · exact ⟨⟨handles, guards, hclosed, .inr ⟨stage, rfl, hsweeps⟩⟩, .inl rfl⟩

/-- **A session that winds up** goes on doing so, and the result is told in the end unless a destroy
panics. -/
theorem WindsUp.step (windsUp : session.WindsUp result)
    (step : session.step? event = some (next, reply)) :
    next.WindsUp result ∧
      (event.isPanic = false → ∀ told, reply = some told → told = .result result) := by
  obtain ⟨handles, guards, closed, running⟩ := windsUp
  cases event with
  | act action =>
    have hnone := act?_of_unreferenced handles guards action
    cases hnone.symm.trans step
  | answer answer =>
    obtain ⟨activity, rest, hrunning, heq⟩ := answer?_cases step
    rcases running with hnone | ⟨stage, hstage, key, object, more, rfl⟩
    · cases hnone.symm.trans hrunning
    obtain ⟨rfl, rfl⟩ := List.cons.inj (hstage.symm.trans hrunning)
    -- the result is told as it is, since the pool is closed already
    have htold : ∀ (pool : Pool κ ω ε) (last : Result ω ε), pool.isClosed = true →
        { session with running := [] }.advance .plain (pool.finish last) =
          ({ session with pool := pool, running := [] }, some (.result last)) := by
      intro pool last hclosed
      have hsession : ({ session with pool := pool, running := [] } :
          Session κ ω ε).pool.isClosed = true := hclosed
      exact depart_of_closed hsession last
    have hgoesOn : ∀ pool : Pool κ ω ε, pool.isClosed = true →
        (next, reply) = { session with running := [] }.advance .plain (pool.sweep more result) →
        next.WindsUp result ∧ ∀ told, reply = some told → told = .result result := by
      intro pool hclosed hnext
      cases more with
      | nil =>
        rw [show pool.sweep [] result = pool.finish result from rfl, htold pool result hclosed]
          at hnext
        cases hnext
        exact ⟨⟨handles, guards, hclosed, .inl rfl⟩, fun told h => (Option.some.inj h).symm⟩
      | cons entry more =>
        cases hnext
        exact ⟨⟨handles, guards, hclosed, .inr ⟨_, rfl, entry.1, entry.2, more, rfl⟩⟩, nofun⟩
    cases answer with
    | panicked reason =>
      rw [show session.pool.resume _ _ = session.pool.finish (.panicked reason) from rfl,
        htold _ _ closed] at heq
      cases heq
      exact ⟨⟨handles, guards, closed, .inl rfl⟩, nofun⟩
    | done _ =>
      obtain ⟨hnext, htells⟩ := hgoesOn session.pool closed heq
      exact ⟨hnext, fun _ => htells⟩
    | refused _ =>
      obtain ⟨hnext, htells⟩ := hgoesOn session.pool closed heq
      exact ⟨hnext, fun _ => htells⟩
    | failed error =>
      obtain ⟨hnext, htells⟩ := hgoesOn
        ((session.pool.count .destroyFailures).note (.destroyFailed key error)) closed heq
      exact ⟨hnext, fun _ => htells⟩

/-- What is told in the end. -/
theorem WindsUp.later (windsUp : session.WindsUp result) {log : List (Move κ ω ε)}
    {final : Session κ ω ε} (later : Later session log final) :
    final.WindsUp result ∧ (Calm log → ∀ move ∈ log, ∀ told, move.reply = some told →
      told = .result result) := by
  induction later with
  | now => exact ⟨windsUp, fun _ => List.forall_mem_nil _⟩
  | step _ hstep ih =>
    obtain ⟨hwindsUp, hbefore⟩ := ih
    obtain ⟨hnext, htells⟩ := hwindsUp.step hstep
    refine ⟨hnext, fun calm move hmove => ?_⟩
    rcases List.mem_cons.mp hmove with rfl | hpast
    · exact htells (calm _ List.mem_cons_self)
    · exact hbefore (fun other hother => calm other (List.mem_cons_of_mem _ hother)) move hpast

end windingUp

/-! ## Backed loans -/

section backing

variable [DecidableEq ι]

/-- How many resources of a key are with clients, themselves or in guards. -/
def outstanding (ident : ω → ι) (key : κ) (log : List (Move κ ω ε)) (session : Session κ ω ε) :
    Nat :=
  (loans ident key log).card + (session.guards.map fun entry => entry.2.key).count key

/-- An operation in progress fits its action, and it has not lent anything yet. -/
def Fitting (action : Action κ ω) (purpose : Purpose κ) (stage : Stage κ ω ε) : Prop :=
  Serves action purpose stage.checkout? none ∧ stage.lent? = none

/-- **The loans are backed.** Every resource that is with a client or in a guard is counted as a
loan of its key, every return in progress is another loan, and it has the slot of its key. -/
structure Backed (ident : ω → ι) (log : List (Move κ ω ε)) (session : Session κ ω ε)
    (frames : List (Frame κ ω ε)) : Prop where
  actions_eq : frames.map Prod.fst = pending log
  running_eq : frames.map Prod.snd = session.running
  fitting : ∀ frame ∈ frames, Fitting frame.1 frame.2.purpose frame.2.stage
  loans_le : ∀ key, ((returningOf frames).map Prod.fst).count key +
    outstanding ident key log session ≤ (session.pool.store.live key).active
  linked : ∀ entry ∈ returningOf frames, session.pool.store.find? entry.1 = some entry.2

/-- The loans are backed still, or nothing refers to the pool any more. -/
def Carries (ident : ω → ι) (log : List (Move κ ω ε)) (session : Session κ ω ε) : Prop :=
  (∃ frames, Backed ident log session frames) ∨ ∃ result, session.WindsUp result

/-- **The loans are backed before a turn** of an operation that answers for the loan of a key
`loan`: next to it there is a loan for every other return in progress, and for every resource with
a client or in a guard. -/
structure Poised (ident : ω → ι) (log : List (Move κ ω ε)) (move : Move κ ω ε)
    (pool : Pool κ ω ε) (base : Session κ ω ε) (loan : Option κ) (frames : List (Frame κ ω ε)) :
    Prop where
  running_eq : frames.map Prod.snd = base.running
  fitting : ∀ frame ∈ frames, Fitting frame.1 frame.2.purpose frame.2.stage
  loans_le : ∀ key, ((returningOf frames).map Prod.fst).count key +
    ((loans ident key log - (under key move.handsBack).map ident).card +
      (base.guards.map fun entry => entry.2.key).count key) + owing key loan ≤
        (pool.store.live key).active
  linked : ∀ entry ∈ returningOf frames, pool.store.find? entry.1 = some entry.2

/-- **The loans are backed in the middle of a step**, after its first half: the operation waits or
is over, the resource that was handed back is no longer with the client, and one that is lent is not
with the client yet. -/
structure Turning (ident : ω → ι) (log : List (Move κ ω ε)) (move : Move κ ω ε)
    (base : Session κ ω ε) (purpose : Purpose κ) (turn : Pool.Turn κ ω ε) (action : Action κ ω)
    (own : Option (Checkout κ)) (frames : List (Frame κ ω ε)) : Prop where
  action_eq : move.action? log = some action
  pending_eq : pending (move :: log) = match move.reply with
    | none => action :: frames.map Prod.fst
    | some _ => frames.map Prod.fst
  running_eq : frames.map Prod.snd = base.running
  fitting : ∀ frame ∈ frames, Fitting frame.1 frame.2.purpose frame.2.stage
  waits : ∀ stage, turn.2 = .waiting stage → Fitting action purpose stage
  lends : ∀ object, turn.2 = .finished (.lent object) → ∃ checkout, own = some checkout ∧
    (action = .call (.borrow checkout.key) ∧ purpose = .plain ∨
      action = .get checkout.key ∧ purpose = .guarding checkout.key)
  loans_le : ∀ key, ((returningOf frames).map Prod.fst).count key +
    ((loans ident key log - (under key move.handsBack).map ident).card +
      (base.guards.map fun entry => entry.2.key).count key) +
    owing key (turn.2.foothold?.map Prod.fst) + owing key (turn.2.lentUnder own) ≤
      (turn.1.store.live key).active
  linked : ∀ entry ∈ turn.2.foothold?.toList ++ returningOf frames,
    turn.1.store.find? entry.1 = some entry.2

section steps

variable {ident : ω → ι} {log : List (Move κ ω ε)} {session base : Session κ ω ε}
  {move : Move κ ω ε} {purpose : Purpose κ} {turn : Pool.Turn κ ω ε} {action : Action κ ω}
  {own : Option (Checkout κ)} {frames : List (Frame κ ω ε)}

/-! ### The first half -/

/-- A return in progress is counted under its key. -/
theorem count_returning (foothold : Option (κ × SlotId)) (returning : List (κ × SlotId)) (key : κ) :
    ((foothold.toList ++ returning).map Prod.fst).count key =
      owing key (foothold.map Prod.fst) + (returning.map Prod.fst).count key := by
  rw [List.map_append, List.count_append, ← count_toList, Option.toList_map]

variable {pool : Pool κ ω ε} {loan : Option κ}

/-- The loan that the operation answers for is counted. -/
theorem Poised.loaned (poised : Poised ident log move pool base loan frames) {key : κ}
    (h : loan = some key) : 0 < (pool.store.live key).active := by
  have hloans := poised.loans_le key
  rw [h, owing_self] at hloans
  omega

/-- **A turn that backs the loans** leaves them backed for the other operations in progress: a
return keeps its slot, because its loan is still counted. -/
theorem Poised.turning (poised : Poised ident log move pool base loan frames)
    (action_eq : move.action? log = some action)
    (pending_eq : pending (move :: log) = match move.reply with
      | none => action :: frames.map Prod.fst
      | some _ => frames.map Prod.fst)
    (serves : Serves action purpose own none)
    (becomes : pool.store.Becomes turn.1.store turn.1.store.live)
    (backs : Pool.Turn.Backs pool own loan turn)
    (waits : ∀ stage, turn.2 = .waiting stage → Fitting action purpose stage) :
    Turning ident log move base purpose turn action own frames := by
  have hloans : ∀ key, ((returningOf frames).map Prod.fst).count key +
      ((loans ident key log - (under key move.handsBack).map ident).card +
        (base.guards.map fun entry => entry.2.key).count key) +
      owing key (turn.2.foothold?.map Prod.fst) + owing key (turn.2.lentUnder own) ≤
        (turn.1.store.live key).active := by
    intro key
    have hbefore := poised.loans_le key
    have hturn := backs.loans key
    omega
  refine ⟨action_eq, pending_eq, poised.running_eq, poised.fitting, waits, ?_, hloans, ?_⟩
  · intro object hover
    cases hown : own with
    | none =>
      have hunlent := backs.unlent hown
      rw [hover] at hunlent
      cases hunlent
    | some checkout => exact ⟨checkout, rfl, (serves.borrows checkout hown).2⟩
  · intro entry hentry
    rcases List.mem_append.mp hentry with hnew | hrest
    · exact backs.linked entry.1 entry.2 (Option.mem_toList.mp hnew)
    · refine becomes.keeps (poised.linked entry hrest) (Bool.eq_false_iff.mpr ?_)
      intro hvacant
      have hnone := (Slot.isVacant_iff.mp hvacant).2.1
      have hcounted : 0 < ((returningOf frames).map Prod.fst).count entry.1 :=
        List.count_pos_iff.mpr (List.mem_map_of_mem hrest)
      have hle := hloans entry.1
      omega

/-- A client hands back what it holds, and the operation answers for that. -/
theorem card_handedBack {operation : Operation κ ω}
    (held : ∀ entry ∈ (Action.call operation).handsBack, ident entry.2 ∈ loans ident entry.1 log)
    (key : κ) :
    (loans ident key log - (under key (Action.call operation).handsBack).map ident).card +
      owing key operation.loan? = (loans ident key log).card := by
  have hback : ∀ (place : κ) (object : ω), ident object ∈ loans ident place log →
      (loans ident key log - (under key [(place, object)]).map ident).card +
        owing key (some place) = (loans ident key log).card := by
    intro place object hheld
    have hle := under_one_le (fun key => loans ident key log) hheld key
    have hcard := congrArg Multiset.card (Multiset.sub_add_cancel hle)
    have hone : (under key [(place, object)]).card = owing key (some place) := by
      rw [card_under]
      exact count_toList (some place) key
    rw [Multiset.card_add, Multiset.card_map, hone] at hcard
    exact hcard
  rcases operation_cases operation with ⟨place, object, rfl | rfl⟩ | ⟨-, hloan, hnothing⟩
  · exact hback place object (held _ List.mem_cons_self)
  · exact hback place object (held _ List.mem_cons_self)
  · rw [hloan, hnothing, congrFun loans_nothing key]
    exact Nat.add_zero _

/-- A guard that is used up is one less, and the operation answers for its resource. -/
theorem count_removeGuard (nodup : (session.guards.map Prod.fst).Nodup) {id : GuardId}
    {guard : Guard κ ω} (there : session.guard? id = some guard) (key : κ) :
    ((session.removeGuard id).guards.map fun entry => entry.2.key).count key +
      owing key (some guard.key) = (session.guards.map fun entry => entry.2.key).count key := by
  have hperm := (guards_perm nodup (find?_of_guard? there)).map fun entry => entry.2.key
  rw [hperm.count_eq, List.map_cons, List.count_cons]
  refine congrArg _ ?_
  unfold owing
  by_cases hkey : guard.key = key
  · simp [hkey]
  · simp [hkey]

/-- A new guard is one more. -/
theorem count_addGuard (session : Session κ ω ε) (key place : κ) (object : ω) :
    (((session.addGuard key object).1.guards).map fun entry => entry.2.key).count place =
      (session.guards.map fun entry => entry.2.key).count place + owing place (some key) := by
  have hguards : (session.addGuard key object).1.guards.map (fun entry => entry.2.key) =
      session.guards.map (fun entry => entry.2.key) ++ (some key).toList := List.map_append
  rw [hguards, List.count_append, count_toList]

/-- **What an action takes out of the hands of a client or out of a guard** is what the operation
answers for that it starts. -/
theorem outstanding_of_act (nodup : (session.guards.map Prod.fst).Nodup)
    {outcome : Session κ ω ε × Option (Reply ω ε)} (allowed : session.act? action = some outcome)
    (held : ∀ entry ∈ action.handsBack, ident entry.2 ∈ loans ident entry.1 log) (key : κ) :
    (loans ident key log - (under key action.handsBack).map ident).card +
      ((session.prepare action).guards.map fun entry => entry.2.key).count key +
      owing key ((session.operation? action).bind Operation.loan?) =
        outstanding ident key log session := by
  have hnothing : action.handsBack = [] →
      (loans ident key log - (under key action.handsBack).map ident).card =
        (loans ident key log).card := by
    intro hback
    rw [hback, congrFun loans_nothing key]
  unfold outstanding
  cases acts_of_act? allowed with
  | @call operation handled =>
    have hback := card_handedBack held key
    have hstarts : session.operation? (.call operation) = some operation := if_neg handled
    rw [hstarts, ← hback]
    exact Nat.add_right_comm _ _ _
  | @get place handled =>
    have hstarts : session.operation? (.get place) = some (.borrow place) := if_neg handled
    rw [hstarts, hnothing rfl]
    rfl
  | @spend action id guard purpose operation there spends =>
    obtain ⟨hstarts, -, hprepare⟩ := starts_of_spending there spends
    obtain ⟨-, hback, hcomes⟩ := returns_of_spending there spends
    have hloan : operation.loan? = some guard.key := by
      rcases hcomes with rfl | rfl <;> rfl
    have hguards := count_removeGuard nodup there key
    rw [hstarts, hprepare, hnothing hback, ← hguards, ← hloan]
    exact Nat.add_assoc _ _ _
  | @touch id object guard there =>
    have hsame : (session.setGuard id object).guards.map (fun entry => entry.2.key) =
        session.guards.map fun entry => entry.2.key :=
      session.map_setGuard _ fun _ _ _ => rfl
    rw [hnothing rfl, ← hsame]
    rfl
  | cloneHandle =>
    rw [hnothing rfl]
    rfl
  | dropHandle =>
    rw [hnothing rfl]
    rfl

/-- The loans are backed before the first turn of an action. -/
theorem Backed.poised (backed : Backed ident log session frames)
    (nodup : (session.guards.map Prod.fst).Nodup) {after : Session κ ω ε}
    {reply : Option (Reply ω ε)} (allowed : session.act? action = some (after, reply))
    (held : ∀ entry ∈ action.handsBack, ident entry.2 ∈ loans ident entry.1 log) :
    Poised ident log ⟨session, .act action, after, reply⟩ session.pool (session.prepare action)
      ((session.operation? action).bind Operation.loan?) frames := by
  refine ⟨backed.running_eq.trans (running_prepare session action).symm, backed.fitting,
    fun key => ?_, backed.linked⟩
  have hloans := backed.loans_le key
  rw [← outstanding_of_act nodup allowed held key, ← Nat.add_assoc] at hloans
  exact hloans

/-- A return in progress has its loan, and the slot of its key. -/
theorem Backed.returning (backed : Backed ident log session frames) {activity : Activity κ ω ε}
    (mem : activity ∈ session.running) {key : κ} {slot : SlotId}
    (foothold : activity.stage.foothold? = some (key, slot)) :
    session.pool.store.find? key = some slot ∧ 0 < (session.pool.store.live key).active := by
  have hentry : (key, slot) ∈ returningOf frames := by
    rw [← backed.running_eq] at mem
    obtain ⟨frame, hframe, rfl⟩ := List.mem_map.mp mem
    exact List.mem_flatMap.mpr ⟨frame, hframe, Option.mem_toList.mpr foothold⟩
  have hcounted : 0 < ((returningOf frames).map Prod.fst).count key :=
    List.count_pos_iff.mpr (List.mem_map_of_mem hentry)
  have hloans := backed.loans_le key
  exact ⟨backed.linked _ hentry, by omega⟩

/-- The loans are backed before an operation goes on with an answer. -/
theorem Backed.answered (backed : Backed ident log session frames) {activity : Activity κ ω ε}
    {others : List (Activity κ ω ε)} (running_eq : session.running = activity :: others)
    (answer : Answer ω ε) (after : Session κ ω ε) (reply : Option (Reply ω ε)) :
    ∃ action rest, frames = (action, activity) :: rest ∧
      Poised ident log ⟨session, .answer answer, after, reply⟩ session.pool
        { session with running := others } (activity.stage.foothold?.map Prod.fst) rest := by
  have hactivities := backed.running_eq
  rw [running_eq] at hactivities
  obtain ⟨⟨action, top⟩, rest, rfl, rfl, hrest⟩ := List.map_eq_cons_iff.mp hactivities
  refine ⟨action, rest, rfl, hrest,
    fun frame hframe => backed.fitting frame (List.mem_cons_of_mem _ hframe), ?_,
    fun entry hentry => backed.linked entry (List.mem_append_right _ hentry)⟩
  intro key
  have hloans := backed.loans_le key
  have hcount : ((returningOf ((action, top) :: rest)).map Prod.fst).count key = _ :=
    count_returning top.stage.foothold? (returningOf rest) key
  unfold outstanding at hloans
  show _ + ((loans ident key log - (under key ([] : List (κ × ω))).map ident).card +
    (session.guards.map fun entry => entry.2.key).count key) +
      owing key (top.stage.foothold?.map Prod.fst) ≤ _
  rw [congrFun loans_nothing key]
  omega

section opens

variable {config : Config} {after : Session κ ω ε} {reply : Option (Reply ω ε)}

/-- An action is in progress once it has been allowed, unless it is over with that. -/
theorem Backed.pending_act (backed : Backed ident log session frames) (action : Action κ ω) :
    pending (Move.mk session (.act action) after reply :: log) = match reply with
      | none => action :: frames.map Prod.fst
      | some _ => frames.map Prod.fst := by
  rw [backed.actions_eq]
  cases reply <;> rfl

/-- The reservation of an operation that starts is that of a borrow of its key. -/
theorem fitting_start (sound : session.pool.store.Sound) {operation : Operation κ ω}
    (starts : session.operation? action = some operation)
    (backs : Pool.Turn.Backs session.pool none operation.loan? (session.pool.start operation))
    {stage : Stage κ ω ε} (waits : (session.pool.start operation).2 = .waiting stage) :
    Fitting action (session.purposeOf action) stage := by
  have hunlent := backs.unlent rfl
  rw [waits] at hunlent
  refine ⟨⟨fun checkout hcheckout => ⟨rfl, ?_⟩, nofun⟩, hunlent⟩
  rcases Pool.start_cases session.pool sound operation with
    ⟨own, hborrow, hcontinues⟩ | ⟨key, next, -, hfail⟩
  · rw [waits] at hcontinues
    rw [hborrow checkout (hcontinues.1.symm.trans hcheckout)] at starts
    rcases (asks_of_operation? starts).2 with rfl | rfl
    · exact .inl ⟨rfl, rfl⟩
    · exact .inr ⟨rfl, rfl⟩
  · rw [hfail] at waits
    cases waits

/-- The first turn of an operation leaves the loans backed. -/
theorem Backed.turning_start (backed : Backed ident log session frames)
    (inOrder : InOrder config session) (nodup : (session.guards.map Prod.fst).Nodup)
    (allowed : session.act? action = some (after, reply))
    (held : ∀ entry ∈ action.handsBack, ident entry.2 ∈ loans ident entry.1 log)
    {operation : Operation κ ω} (starts : session.operation? action = some operation) :
    Turning ident log ⟨session, .act action, after, reply⟩ (session.prepare action)
      (session.purposeOf action) (session.pool.start operation) action none frames := by
  have hsound := inOrder.orderly.sound
  have hpoised := backed.poised nodup allowed held
  rw [starts] at hpoised
  have hsteady := Pool.steady_start session.pool hsound operation
  have hbacks := Pool.backs_start hsound operation fun key => hpoised.loaned
  exact hpoised.turning rfl (backed.pending_act action) (serves_none action _) hsteady.becomes
    hbacks fun _ => fitting_start hsound starts hbacks

/-- So does an action that only changes the handles or the guards. -/
theorem Backed.turning_aside (backed : Backed ident log session frames)
    (inOrder : InOrder config session) (nodup : (session.guards.map Prod.fst).Nodup)
    (allowed : session.act? action = some (after, reply))
    (held : ∀ entry ∈ action.handsBack, ident entry.2 ∈ loans ident entry.1 log)
    (other : session.operation? action = none) :
    Turning ident log ⟨session, .act action, after, reply⟩ (session.prepare action) .plain
      (session.pool.finish .done) action none frames := by
  have hpoised := backed.poised nodup allowed held
  rw [other] at hpoised
  have hbacks : Pool.Turn.Backs session.pool none none (session.pool.finish .done) :=
    .of_active (fun _ => rfl) rfl rfl
  exact hpoised.turning rfl (backed.pending_act action) (serves_none action _)
    (Store.Becomes.refl inOrder.orderly.sound) hbacks nofun

/-- So does every later turn of an operation. -/
theorem Backed.turning_resume (backed : Backed ident log session frames)
    (inOrder : InOrder config session) {activity : Activity κ ω ε}
    {others : List (Activity κ ω ε)} (running_eq : session.running = activity :: others)
    (answer : Answer ω ε) (after : Session κ ω ε) (reply : Option (Reply ω ε)) :
    ∃ action rest, Turning ident log ⟨session, .answer answer, after, reply⟩
      { session with running := others } activity.purpose
      (session.pool.resume activity.stage answer) action activity.stage.checkout? rest := by
  have hsound := inOrder.orderly.sound
  obtain ⟨action, rest, rfl, hpoised⟩ := backed.answered running_eq answer after reply
  have hrunning : activity ∈ session.running := running_eq ▸ List.mem_cons_self
  obtain ⟨hserves, hunlent⟩ := backed.fitting _ List.mem_cons_self
  have hmem : activity.stage ∈ session.stages := by simp [stages, running_eq]
  have hholds := inOrder.orderly.holds hmem
  have hsteady := Pool.steady_resume session.pool hsound activity.stage hholds
    (inOrder.orderly.stands _ hmem) answer
  have hbacks := Pool.backs_resume hsound hholds (fun _ _ => backed.returning hrunning) hunlent
    answer
  have hcontinues := Pool.continues_resume session.pool (inOrder.admitted _ hmem) answer
  have hpending := backed.actions_eq.symm
  refine ⟨action, rest, hpoised.turning ?_ ?_ hserves hsteady.becomes hbacks ?_⟩
  · show (pending log).head? = some action
    rw [hpending]
    rfl
  · cases reply with
    | none => exact hpending
    | some told => exact congrArg List.tail hpending
  · intro stage hwaits
    rw [hwaits] at hcontinues
    have hcheckout : stage.checkout? = activity.stage.checkout? := hcontinues.1
    refine ⟨hcheckout ▸ hserves, ?_⟩
    cases hown : activity.stage.checkout? with
    | none =>
      have hstill := hbacks.unlent hown
      rw [hwaits] at hstill
      exact hstill
    | some checkout => exact lent?_of_checkout (hcheckout.trans hown)

/-- **Every step keeps the loans backed** up to its second half, if clients hand back only what they
hold. -/
theorem Backed.opens (backed : Backed ident log session frames) (inOrder : InOrder config session)
    (numbered : Numbered session) {event : Event κ ω ε}
    (step : session.step? event = some (after, reply))
    (held : ∀ entry ∈ (Move.mk session event after reply).handsBack,
      ident entry.2 ∈ loans ident entry.1 log)
    (opens : session.Opens event base purpose turn) :
    ∃ action own rest,
      Turning ident log ⟨session, event, after, reply⟩ base purpose turn action own rest := by
  cases opens with
  | @start action operation starts =>
    exact ⟨action, none, frames, backed.turning_start inOrder numbered.nodup step held starts⟩
  | @aside action other allowed =>
    exact ⟨action, none, frames, backed.turning_aside inOrder numbered.nodup step held other⟩
  | @resume answer activity others running_eq =>
    obtain ⟨action, rest, hturning⟩ :=
      backed.turning_resume inOrder running_eq answer after reply
    exact ⟨action, _, rest, hturning⟩

end opens

/-! ### The second half -/

/-- A move lends what its reply says. -/
theorem loans_cons (action_eq : move.action? log = some action) (key : κ) :
    loans ident key (move :: log) = loans ident key log - (under key move.handsBack).map ident +
      (under key (action.lends move.reply)).map ident := by
  show _ + (under key (move.lends log)).map ident = _
  unfold Move.lends
  rw [action_eq, Option.toList_some, List.flatMap_singleton]

/-- A client is told of a loan only if there is one. -/
theorem lent_of_conclusion {result : Result ω ε} {object : ω}
    (h : (conclusion purpose pool result).2 = .lent object) : result = .lent object := by
  rcases conclusion_cases purpose pool result with heq | ⟨_, _, -, -, heq⟩
  · rw [heq] at h
    exact h
  · rw [heq] at h
    cases h

/-- What a reply lends to a client is a loan that the turn has begun. -/
theorem Turning.lends_le {result : Result ω ε}
    (turning : Turning ident log move base purpose (pool, .finished result) action own frames)
    (key : κ) :
    (under key (action.lends (some (.result (conclusion purpose pool result).2)))).card ≤
      owing key ((Progress.finished result).lentUnder own) := by
  cases htold : (conclusion purpose pool result).2 with
  | lent object =>
    obtain rfl := lent_of_conclusion htold
    obtain ⟨checkout, rfl, ⟨rfl, -⟩ | ⟨rfl, -⟩⟩ := turning.lends object rfl
    · show (under key [(checkout.key, object)]).card ≤ owing key (some checkout.key)
      by_cases hkey : checkout.key = key
      · rw [hkey, under_self, owing_self, Multiset.card_singleton]
      · rw [under_of_ne hkey]
        exact Nat.zero_le _
    · exact Nat.zero_le _
  | _ =>
    rw [(settled_of_not_lent .standard action rfl).1]
    exact Nat.zero_le _

/-- The loans are backed when what the reply lends and what is in the guards by then are the
resources that were in guards before and the one that the turn has lent. -/
theorem Turning.backs (turning : Turning ident log move base purpose turn action own frames)
    {next : Session κ ω ε} {key : κ}
    (handed : (under key (action.lends move.reply)).card +
      (next.guards.map fun entry => entry.2.key).count key ≤
        (base.guards.map fun entry => entry.2.key).count key + owing key (turn.2.lentUnder own)) :
    ((turn.2.foothold?.toList ++ returningOf frames).map Prod.fst).count key +
      outstanding ident key (move :: log) next ≤ (turn.1.store.live key).active := by
  have hcounted := turning.loans_le key
  unfold outstanding
  rw [count_returning, loans_cons turning.action_eq, Multiset.card_add, Multiset.card_map]
  omega

/-- **How a step ends that leaves the loans backed**: they are backed again, with the new loan among
those of the clients or in a guard, or the pool closes because nothing refers to it. -/
theorem Turning.ends (turning : Turning ident log move base purpose turn action own frames)
    (sound : turn.1.store.Sound) {outcome : Session κ ω ε × Option (Reply ω ε)}
    (ends : base.Ends purpose turn outcome) (outcome_eq : outcome = (move.after, move.reply)) :
    Carries ident (move :: log) move.after := by
  obtain ⟨before, event, after, reply⟩ := move
  cases ends with
  | @waits pool stage =>
    cases outcome_eq
    refine .inl ⟨(action, ⟨stage, purpose⟩) :: frames, turning.pending_eq.symm, ?_, ?_, ?_,
      turning.linked⟩
    · rw [List.map_cons, turning.running_eq]
    · intro frame hframe
      rcases List.mem_cons.mp hframe with rfl | hrest
      · exact turning.waits stage rfl
      · exact turning.fitting frame hrest
    · intro key
      apply turning.backs
      rw [lends_none]
      exact Nat.le_of_eq (Nat.zero_add _)
  | @guarded pool key object purpose_eq =>
    obtain ⟨checkout, rfl, ⟨-, hplain⟩ | ⟨rfl, hguarding⟩⟩ := turning.lends object rfl
    · rw [purpose_eq] at hplain
      cases hplain
    obtain rfl : key = checkout.key := by
      rw [purpose_eq] at hguarding
      exact Purpose.guarding.inj hguarding
    cases outcome_eq
    refine .inl ⟨frames, turning.pending_eq.symm, turning.running_eq, turning.fitting,
      fun key => turning.backs ?_, turning.linked⟩
    exact Nat.le_of_eq ((Nat.zero_add _).trans (count_addGuard _ checkout.key key object))
  | @told pool result referenced =>
    cases outcome_eq
    refine .inl ⟨frames, turning.pending_eq.symm, turning.running_eq, turning.fitting, ?_, ?_⟩
    · intro key
      have hhanded := Nat.add_le_add_left (turning.lends_le key)
        ((base.guards.map fun entry => entry.2.key).count key)
      rw [Nat.add_comm] at hhanded
      rw [store_conclusion]
      exact turning.backs hhanded
    · rw [store_conclusion]
      exact turning.linked
  | @closes pool result handles guards running =>
    have hconcluded : (conclusion purpose pool result).1.store.Sound := by
      rw [store_conclusion]
      exact sound
    have hwinds := (windsUp_closing { base with pool := (conclusion purpose pool result).1 }
      handles guards running hconcluded (conclusion purpose pool result).2).1
    rw [outcome_eq] at hwinds
    exact .inr ⟨_, hwinds⟩

/-! ### Runs -/

/-- **Along every history the loans are backed**, with any factory, as long as clients hand back
only what they hold; or else nothing refers to the pool any more. -/
theorem carries_of_history {config : Config} (history : History config log session)
    (linear : Linear ident log) : Carries ident log session := by
  induction history with
  | create => exact .inl ⟨[], rfl, rfl, List.forall_mem_nil _, fun _ => Nat.le_refl 0,
      List.forall_mem_nil _⟩
  | @step log session next event reply past hstep ih =>
    have hinOrder := reachable_inOrder past.reachable
    rcases ih linear.2 with ⟨frames, hbacked⟩ | ⟨result, hwindsUp⟩
    · obtain ⟨base, purpose, turn, hopens, heq⟩ := opens_of_step? hstep
      obtain ⟨action, own, rest, hturning⟩ :=
        hbacked.opens hinOrder (numbered_of_history past) hstep linear.1 hopens
      exact hturning.ends (hopens.orderly hinOrder).sound (base.ends_advance purpose turn) heq.symm
    · exact .inr ⟨result, (hwindsUp.step hstep).1⟩

end steps

end backing

end ResourcePool.Session
