import ResourcePool.Proofs.Session.Failures
import ResourcePool.Proofs.Session.History

/-!
# Reports of failures

A destroy that fails is reported once: by a note, or as the result of the return or invalidation
that it belongs to. This holds in the middle of any operations, for any clients, as long as no
factory step panics.

* `underway` — the actions in progress, with the failures that they have heard of.
* `Move.Reports`, `Move.Accounts` — what a move does with a failure.
* `told`, `due` — the failures that are results, told already or not yet.
* `failures_reported_once` — every failure of a destroy is reported, in exactly one way.
-/

set_option linter.unusedSectionVars false

namespace ResourcePool

variable {κ ω ε : Type} [DecidableEq κ]

namespace Session

/-! ## What histories tell -/

namespace Move

variable (move : Move κ ω ε)

/-- What is known of the result of the action in progress before the move. -/
def known? : Option (Result ω ε) :=
  match move.event with
  | .act _ => none
  | .answer _ => move.before.known?

/-- What is known of the result of the action in progress after the move. -/
def result? : Option (Result ω ε) := resultOf (move.after, move.reply)

/-- The error of a destroy that failed. -/
def fault? : Option ε :=
  match move.answered? with
  | some (.destroy .., .failed error) => some error
  | _ => none

/-- The failure that the action in progress hears of. -/
def hears (log : List (Move κ ω ε)) : List ε :=
  match move.answered?, move.action? log with
  | some (request, .failed error), some action => if action.hears request then [error] else []
  | _, _ => []

/-- The failure that a client is told of when it has handed a resource back. -/
def tells (log : List (Move κ ω ε)) : List ε :=
  (move.action? log).toList.flatMap fun action => action.toldBy move.reply

end Move

/-- The errors of all destroys that failed. -/
def faults (log : List (Move κ ω ε)) : List ε := log.flatMap fun move => move.fault?.toList

/-- The failures that clients have been told of when they had handed a resource back. -/
def told : List (Move κ ω ε) → List ε
  | [] => []
  | move :: log => move.tells log ++ told log

/-- The actions in progress, the innermost first, with the failures that they have heard of. -/
def underway : List (Move κ ω ε) → List (Action κ ω × List ε)
  | [] => []
  | move :: log =>
    match move.event, move.reply with
    | .act action, none => (action, []) :: underway log
    | .act _, some _ => underway log
    | .answer _, none => (underway log).modifyHead fun frame => (frame.1, move.hears log ++ frame.2)
    | .answer _, some _ => (underway log).tail

/-- The failures that the action a move belongs to has heard of by then. -/
def Move.heard (move : Move κ ω ε) (log : List (Move κ ω ε)) : List ε :=
  match move.event with
  | .act _ => []
  | .answer _ => move.hears log ++ (underway log).head?.elim [] Prod.snd

/-- The failures that are known while operations still wait, of those who have handed a resource
back. -/
def dueOf (frames : List (Action κ ω × List ε)) (running : List (Activity κ ω ε)) : List ε :=
  (frames.zip running).flatMap fun frame => frame.1.1.share frame.2.stage.cause?

/-- The failures that clients who have handed a resource back are still to be told of, because the
pool closes before the reply. -/
def due (log : List (Move κ ω ε)) (session : Session κ ω ε) : List ε :=
  dueOf (underway log) session.running

/-- What is due to the innermost action comes first. -/
theorem dueOf_cons (frame : Action κ ω × List ε) (frames : List (Action κ ω × List ε))
    (activity : Activity κ ω ε) (running : List (Activity κ ω ε)) :
    dueOf (frame :: frames) (activity :: running) =
      frame.1.share activity.stage.cause? ++ dueOf frames running := rfl

/-- The actions in progress are those that are underway. -/
theorem pending_eq (log : List (Move κ ω ε)) : pending log = (underway log).map Prod.fst := by
  induction log with
  | nil => rfl
  | cons move log ih =>
    obtain ⟨before, event, after, reply⟩ := move
    cases event with
    | act action =>
      cases reply with
      | none => simp [pending, underway, ih]
      | some told => simp [pending, underway, ih]
    | answer answer =>
      cases reply with
      | none =>
        simp only [pending, underway, ih]
        cases underway log <;> rfl
      | some told => simp [pending, underway, ih]

/-! ## Moves -/

/-- **How the failure of a destroy is reported**: by one note, and then it is not told; or by no
note, and then it is the result of the action that has handed the resource back. -/
inductive Move.Reports (move : Move κ ω ε) (log : List (Move κ ω ε)) (key : κ) (error : ε) : Prop
  where
  | noted {note : Note κ ε}
      (note_eq : note = .destroyFailed key error ∨ note = .destroyFailedClosed key error)
      (warns : move.after.warnings = note :: move.before.warnings)
      (untold : move.result?.bind Result.cause? = move.known?.bind Result.cause?)
  | muted {id : GuardId} (acts : move.action? log = some (.dropGuard id))
      (warns : move.after.warnings = .returnFailed key (.factory error) :: move.before.warnings)
      (untold : move.result?.bind Result.cause? = none)
  | told {action : Action κ ω} (acts : move.action? log = some action)
      (returns : action.isReturn = true) (warns : move.after.warnings = move.before.warnings)
      (unknown : move.known? = none) (tells : move.result? = some (.failed (.factory error)))

/-- What a move does with failures. -/
structure Move.Accounts (move : Move κ ω ε) (log : List (Move κ ω ε)) : Prop where
  faulty : ∀ key object error, move.answered? = some (.destroy key object, .failed error) →
    move.Reports log key error
  faultless : move.fault? = none → move.after.warnings = move.before.warnings ∧
    ∀ action, move.action? log = some action → action.isReturn = true →
      move.result?.bind Result.cause? = move.known?.bind Result.cause?
  hears : ∀ error, move.result?.bind Result.cause? = some error →
    error ∈ move.hears log ∨ move.known?.bind Result.cause? = some error
  lasts : ∀ error, move.known?.bind Result.cause? = some error →
    move.result?.bind Result.cause? = some error
  counts : move.after.pool.tally.get .destroyFailures =
    move.before.pool.tally.get .destroyFailures + move.fault?.toList.length

/-- An operation in progress belongs to its action, and if it is to end with a failure, the action
has heard of that. -/
def Fits (frame : Action κ ω × List ε) (activity : Activity κ ω ε) : Prop :=
  Belongs frame.1 activity ∧ ∀ error, activity.stage.cause? = some error → error ∈ frame.2

section steps

variable {config : Config} {log : List (Move κ ω ε)} {session next : Session κ ω ε}
  {reply : Option (Reply ω ε)}

/-- A result whose cause is known is the failure. -/
theorem eq_of_cause {known : Option (Result ω ε)} {error : ε}
    (h : known.bind Result.cause? = some error) : known = some (.failed (.factory error)) := by
  obtain ⟨result, rfl, hcause⟩ := Option.bind_eq_some_iff.mp h
  cases result with
  | failed failure => cases failure <;> cases hcause; rfl
  | _ => cases hcause

/-- The first turn of an action. -/
theorem Opens.act (inOrder : InOrder config session) {action : Action κ ω} {base : Session κ ω ε}
    {purpose : Purpose κ} {turn : Pool.Turn κ ω ε}
    (opens : session.Opens (.act action) base purpose turn) :
    base.running = session.running ∧ Pool.Turn.Quiet session.pool turn ∧ turn.2.cause? = none ∧
      ∀ stage, turn.2 = .waiting stage → Belongs action ⟨stage, purpose⟩ := by
  cases opens with
  | @start _ operation starts =>
    have hpursues := session.pool.pursues_start operation
    refine ⟨running_prepare session action, Pool.quiet_start inOrder.orderly.sound operation,
      hpursues.cause_eq, ?_⟩
    intro stage hwaits
    exact .inl ⟨operation, runs_of_operation? starts, hpursues.visits stage hwaits⟩
  | aside other =>
    exact ⟨running_prepare session action, ⟨rfl, rfl⟩, rfl, nofun⟩

/-- The operations in progress fit their actions after a turn has been taken over. -/
theorem fits_of_ends {base : Session κ ω ε} {purpose : Purpose κ} {turn : Pool.Turn κ ω ε}
    {outcome : Session κ ω ε × Option (Reply ω ε)} (ends : base.Ends purpose turn outcome)
    (frame : Action κ ω × List ε) {frames : List (Action κ ω × List ε)}
    (others : List.Forall₂ Fits frames base.running)
    (belongs : ∀ stage, turn.2 = .waiting stage → Belongs frame.1 ⟨stage, purpose⟩)
    (hears : ∀ error, (resultOf outcome).bind Result.cause? = some error → error ∈ frame.2) :
    List.Forall₂ Fits (match outcome.2 with | none => frame :: frames | some _ => frames)
      outcome.1.running := by
  rcases running_of_ends ends with ⟨told, htold, hrunning⟩ | ⟨activity, hnone, hrunning, hactivity⟩
  · rw [htold, hrunning]
    exact others
  · have hresult : resultOf outcome = activity.stage.outcome? := by
      unfold resultOf known?
      rw [hnone, hrunning]
      rfl
    rw [hresult] at hears
    rw [hnone, hrunning]
    refine .cons ⟨?_, hears⟩ others
    rcases hactivity with ⟨hwaits, rfl⟩ | hsweeps
    · exact belongs _ hwaits
    · exact .inr hsweeps

/-- **An action begins**, and nothing is reported. -/
theorem accounts_of_act (inOrder : InOrder config session) {action : Action κ ω}
    (h : session.step? (.act action) = some (next, reply))
    (fits : List.Forall₂ Fits (underway log) session.running) :
    (Move.mk session (.act action) next reply).Accounts log ∧
      List.Forall₂ Fits (underway (⟨session, .act action, next, reply⟩ :: log)) next.running := by
  obtain ⟨base, purpose, turn, hopens, heq⟩ := opens_of_step? h
  have hends := base.ends_advance purpose turn
  rw [← heq] at hends
  have hsound := (hopens.orderly inOrder).sound
  obtain ⟨hrunning, hquiet, hcause, hbelongs⟩ := hopens.act inOrder
  obtain ⟨hwarnings, hfailures, hresult⟩ := reports_of_ends hends hsound
  rw [muted?_of_causeless hcause] at hwarnings hresult
  have hnone : (resultOf (next, reply)).bind Result.cause? = none := hresult.trans hcause
  constructor
  · refine ⟨nofun, fun _ => ⟨?_, fun _ _ _ => hnone⟩, ?_, nofun, ?_⟩
    · exact hwarnings.trans hquiet.warnings_eq
    · intro error h
      exact absurd (hnone.symm.trans h) nofun
    · exact hfailures.trans hquiet.failures_eq
  · have hall := fits_of_ends hends (action, []) (hrunning ▸ fits) hbelongs
      fun error h => absurd (hnone.symm.trans h) nofun
    cases reply <;> exact hall

/-- **An answer to a call** of an action in progress, with what the move reports and what it leaves
of the result. -/
structure Move.Answers (move : Move κ ω ε) (log : List (Move κ ω ε)) (action : Action κ ω)
    (activity : Activity κ ω ε) (answer : Answer ω ε) : Prop where
  belongs : Belongs action activity
  calm : ∀ reason, answer ≠ .panicked reason
  answered_eq : move.answered? = some (activity.stage.request, answer)
  action_eq : move.action? log = some action
  known_eq : move.known? = activity.stage.outcome?
  warnings_eq : move.after.warnings =
    (activity.purpose.muted? (move.before.pool.resume activity.stage answer).2).toList ++
      ((warning? move.before.pool activity.stage answer).toList ++ move.before.warnings)
  cause_eq : move.result?.bind Result.cause? =
    if (activity.purpose.muted? (move.before.pool.resume activity.stage answer).2).isSome then none
    else (move.before.pool.resume activity.stage answer).2.cause?

namespace Move.Answers

variable {move : Move κ ω ε} {action : Action κ ω} {activity : Activity κ ω ε}
  {answer : Answer ω ε} (answers : move.Answers log action activity answer)
include answers

/-- What is known of the result is what the stage knows. -/
theorem known_cause : move.known?.bind Result.cause? = activity.stage.cause? := by
  rw [answers.known_eq]
  rfl

/-- A destroy that fails is noted or told, as `Move.Reports` says. -/
theorem reports {key : κ} {object : ω} {error : ε}
    (fault : move.answered? = some (.destroy key object, .failed error)) :
    move.Reports log key error := by
  obtain ⟨hasks, hfails⟩ := Prod.mk.inj (Option.some.inj (answers.answered_eq.symm.trans fault))
  have hwarnings := answers.warnings_eq
  have hcause := answers.cause_eq
  rcases answers.belongs.faulty move.before.pool hasks hfails with
    ⟨note, hnote, hwarning, hmuted, hsame⟩ | ⟨id, rfl, hwarning, hmuted⟩ |
    ⟨hreturn, hwarning, hmuted, hunknown, htells⟩
  · rw [hmuted, hwarning] at hwarnings
    rw [hmuted] at hcause
    exact .noted hnote hwarnings (hcause.trans (hsame.trans answers.known_cause.symm))
  · rw [hmuted, hwarning] at hwarnings
    rw [hmuted] at hcause
    exact .muted answers.action_eq hwarnings hcause
  · rw [hmuted, hwarning] at hwarnings
    rw [hmuted] at hcause
    exact .told answers.action_eq hreturn hwarnings (answers.known_eq.trans hunknown)
      (eq_of_cause (hcause.trans htells))

/-- A move in which no destroy fails notes none, and tells a client who hands back only what was
known. -/
theorem faultless (fault : move.fault? = none) : move.after.warnings = move.before.warnings ∧
    ∀ action, move.action? log = some action → action.isReturn = true →
      move.result?.bind Result.cause? = move.known?.bind Result.cause? := by
  have hnot : ∀ key object error, activity.stage.request = .destroy key object →
      answer ≠ .failed error := by
    rintro key object error hasks rfl
    simp [Move.fault?, answers.answered_eq, hasks] at fault
  have hwarnings := answers.warnings_eq
  have hcause := answers.cause_eq
  obtain ⟨hwarning, hmuted, hsame⟩ :=
    answers.belongs.faultless move.before.pool answers.calm hnot
  rw [hmuted, hwarning] at hwarnings
  rw [hmuted] at hcause
  refine ⟨hwarnings, ?_⟩
  intro other hother hreturn
  cases answers.action_eq.symm.trans hother
  exact hcause.trans ((hsame hreturn).trans answers.known_cause.symm)

/-- What is told was heard in this move or known before. -/
theorem hears {error : ε} (tells : move.result?.bind Result.cause? = some error) :
    error ∈ move.hears log ∨ move.known?.bind Result.cause? = some error := by
  rw [answers.cause_eq] at tells
  cases hmuted : activity.purpose.muted? (move.before.pool.resume activity.stage answer).2 with
  | some note =>
    rw [hmuted] at tells
    cases tells
  | none =>
    rw [hmuted] at tells
    rcases answers.belongs.cause_heard answers.calm hmuted tells with ⟨rfl, hhears⟩ | hbefore
    · left
      simp [Move.hears, answers.answered_eq, answers.action_eq, hhears]
    · exact .inr (answers.known_cause.trans hbefore)

/-- What is known of the result is not forgotten. -/
theorem lasts {error : ε} (known : move.known?.bind Result.cause? = some error) :
    move.result?.bind Result.cause? = some error := by
  rw [answers.known_cause] at known
  have hnever : activity.stage.surfaces move.before.pool.isClosed = false := by
    cases hstage : activity.stage with
    | destroying key object aftermath =>
      rw [hstage] at known
      cases aftermath <;> first | rfl | cases known
    | _ => rw [hstage] at known; cases known
  have hturn := (answers.belongs.resume move.before.pool answers.calm).2
  rw [hnever, known] at hturn
  have hcause := answers.cause_eq
  cases hmuted : activity.purpose.muted? (move.before.pool.resume activity.stage answer).2 with
  | none =>
    rw [hmuted] at hcause
    exact hcause.trans hturn
  | some note =>
    obtain ⟨_, _, _, _, -, -, hstage, -⟩ := answers.belongs.muted answers.calm hmuted
    rw [hstage] at known
    cases known

end Move.Answers

/-- **An answer is heard**, and if a destroy has failed, that is reported. -/
theorem accounts_of_answer (inOrder : InOrder config session) {answer : Answer ω ε}
    (calm : ∀ reason, answer ≠ .panicked reason)
    (h : session.step? (.answer answer) = some (next, reply))
    (fits : List.Forall₂ Fits (underway log) session.running) :
    (Move.mk session (.answer answer) next reply).Accounts log ∧
      List.Forall₂ Fits (underway (⟨session, .answer answer, next, reply⟩ :: log))
        next.running := by
  obtain ⟨base, purpose, turn, hopens, heq⟩ := opens_of_step? h
  have hends := base.ends_advance purpose turn
  rw [← heq] at hends
  have hsound := (hopens.orderly inOrder).sound
  cases hopens with
  | @resume _ activity rest running_eq =>
    have hmem : activity.stage ∈ session.stages := by simp [stages, running_eq]
    obtain ⟨deed, hdoes⟩ := session.pool.does_resume inOrder.orderly.sound activity.stage
      (inOrder.orderly.holds hmem) (inOrder.orderly.stands _ hmem) answer
    obtain ⟨hwarnings, hfailures, hresult⟩ := reports_of_ends hends hsound
    rw [hdoes.quiet.warnings_eq, warnings_hear] at hwarnings
    rw [hdoes.quiet.failures_eq, failures_hear] at hfailures
    -- the action that the operation belongs to
    rw [running_eq] at fits
    obtain ⟨frame, frames, ⟨hbelongs, hheard⟩, hothers, hunderway⟩ :=
      List.forall₂_cons_right_iff.mp fits
    have hanswers : (Move.mk session (.answer answer) next reply).Answers log frame.1 activity
        answer := by
      refine ⟨hbelongs, calm, ?_, ?_, ?_, hwarnings, hresult⟩
      · simp [Move.answered?, request?, running_eq]
      · simp [Move.action?, pending_eq, hunderway]
      · simp [Move.known?, known?, running_eq]
    refine ⟨⟨fun _ _ _ => hanswers.reports, hanswers.faultless, fun _ => hanswers.hears,
      fun _ => hanswers.lasts, ?_⟩, ?_⟩
    · refine hfailures.trans (congrArg (_ + ·) ?_)
      unfold Move.fault?
      rw [hanswers.answered_eq]
      cases activity.stage <;> cases answer <;> rfl
    · have hall := fits_of_ends hends (frame.1,
          (Move.mk session (.answer answer) next reply).hears log ++ frame.2) hothers
        (hbelongs.resume session.pool calm).1 ?_
      · cases reply with
        | none => simpa [underway, hunderway] using hall
        | some told => simpa [underway, hunderway] using hall
      · intro error htold
        rcases hanswers.hears htold with hnow | hbefore
        · exact List.mem_append_left _ hnow
        · rw [hanswers.known_cause] at hbefore
          exact List.mem_append_right _ (hheard error hbefore)

end steps

/-! ## Totals -/

section totals

variable {log : List (Move κ ω ε)} {session next : Session κ ω ε} {reply : Option (Reply ω ε)}

/-- What is told and what is still due after a turn has been taken over. -/
theorem due_of_ends {base : Session κ ω ε} {purpose : Purpose κ} {turn : Pool.Turn κ ω ε}
    {outcome : Session κ ω ε × Option (Reply ω ε)} (ends : base.Ends purpose turn outcome)
    (frame : Action κ ω × List ε) (frames : List (Action κ ω × List ε)) :
    frame.1.toldBy outcome.2 ++
        dueOf (match outcome.2 with | none => frame :: frames | some _ => frames)
          outcome.1.running =
      frame.1.share ((resultOf outcome).bind Result.cause?) ++ dueOf frames base.running := by
  obtain ⟨after, reply⟩ := outcome
  rcases running_of_ends ends with ⟨told, rfl, hrunning⟩ | ⟨activity, rfl, hrunning, -⟩
  · have hafter : after.running = base.running := hrunning
    rw [hafter]
    cases told with
    | result result => rfl
    | guarded id object => simp [Action.toldBy, resultOf]
  · have hafter : after.running = activity :: base.running := hrunning
    have hresult : (resultOf (after, none)).bind Result.cause? = activity.stage.cause? := by
      simp only [resultOf, known?, hafter]
      rfl
    rw [hafter, hresult]
    rfl

/-- **What a move changes in what is told and due** is the failure that becomes known by it. -/
theorem due_of_step {event : Event κ ω ε} (h : session.step? event = some (next, reply))
    (fits : List.Forall₂ Fits (underway log) session.running) :
    ∃ action rest, (Move.mk session event next reply).action? log = some action ∧
      due log session = action.share
        ((Move.mk session event next reply).known?.bind Result.cause?) ++ rest ∧
      (Move.mk session event next reply).tells log ++
        due (⟨session, event, next, reply⟩ :: log) next =
          action.share ((Move.mk session event next reply).result?.bind Result.cause?) ++ rest := by
  obtain ⟨base, purpose, turn, hopens, heq⟩ := opens_of_step? h
  have hends := base.ends_advance purpose turn
  rw [← heq] at hends
  cases event with
  | act action =>
    have hrunning : base.running = session.running := by cases hopens <;> exact running_prepare _ _
    refine ⟨action, due log session, rfl, ?_, ?_⟩
    · simp [Move.known?]
    · have hdue := due_of_ends hends (action, []) (underway log)
      rw [hrunning] at hdue
      cases reply with
      | none => exact hdue
      | some told => simpa [Move.tells, Move.action?, Move.result?, due, underway] using hdue
  | answer answer =>
    cases hopens with
    | @resume _ activity rest running_eq =>
      rw [running_eq] at fits
      obtain ⟨frame, frames, -, -, hunderway⟩ := List.forall₂_cons_right_iff.mp fits
      have haction : (Move.mk session (.answer answer) next reply).action? log = some frame.1 := by
        simp [Move.action?, pending_eq, hunderway]
      have hdue := due_of_ends hends
        (frame.1, (Move.mk session (.answer answer) next reply).hears log ++ frame.2) frames
      refine ⟨frame.1, dueOf frames rest, haction, ?_, ?_⟩
      · rw [due, hunderway, running_eq, dueOf_cons]
        simp only [Move.known?, known?, running_eq]
        rfl
      · rw [due, Move.tells, haction, Option.toList_some, List.flatMap_singleton]
        cases reply with
        | none => simpa [Move.result?, underway, hunderway] using hdue
        | some told => simpa [Move.result?, underway, hunderway] using hdue

end totals

/-! ## Histories -/

section histories

variable {config : Config} {log : List (Move κ ω ε)} {session next : Session κ ω ε}

/-- Every move accounts for the failures in it, and the operations still fit. -/
theorem accounts_of_step (inOrder : InOrder config session) {event : Event κ ω ε}
    {reply : Option (Reply ω ε)} (h : session.step? event = some (next, reply))
    (calm : event.isPanic = false) (fits : List.Forall₂ Fits (underway log) session.running) :
    (Move.mk session event next reply).Accounts log ∧
      List.Forall₂ Fits (underway (⟨session, event, next, reply⟩ :: log)) next.running := by
  cases event with
  | act action => exact accounts_of_act inOrder h fits
  | answer answer =>
    apply accounts_of_answer inOrder _ h fits
    rintro reason rfl
    cases calm

/-- The operations in progress fit the actions that are underway. -/
theorem fits_of_history (history : History config log session) (calm : Calm log) :
    List.Forall₂ Fits (underway log) session.running := by
  induction history with
  | create => exact .nil
  | step past hstep ih =>
    have hbefore := ih fun move hmove => calm move (List.mem_cons_of_mem _ hmove)
    exact (accounts_of_step (reachable_inOrder past.reachable) hstep (calm _ List.mem_cons_self)
      hbefore).2

/-- A failure that is told has been heard of. -/
theorem Move.Accounts.heard {move : Move κ ω ε} (accounts : move.Accounts log)
    (fits : List.Forall₂ Fits (underway log) move.before.running) {error : ε}
    (tells : move.result?.bind Result.cause? = some error) : error ∈ move.heard log := by
  unfold Move.heard
  rcases accounts.hears error tells with hnow | hbefore
  · cases hevent : move.event with
    | act action =>
      simp [Move.hears, Move.answered?, hevent] at hnow
    | answer answer => exact List.mem_append_left _ hnow
  · cases hevent : move.event with
    | act action => simp [Move.known?, hevent] at hbefore
    | answer answer =>
      apply List.mem_append_right
      cases hrunning : move.before.running with
      | nil => simp [Move.known?, hevent, Session.known?, hrunning] at hbefore
      | cons activity rest =>
        rw [hrunning] at fits
        obtain ⟨frame, frames, ⟨-, hheard⟩, -, hunderway⟩ := List.forall₂_cons_right_iff.mp fits
        simp only [Move.known?, hevent, Session.known?, hrunning] at hbefore
        rw [hunderway]
        exact hheard error hbefore

/-- Every one of these notes reports a failure. -/
theorem length_warnings (session : Session κ ω ε) :
    (session.warnings.filterMap Note.fault?).length = session.warnings.length := by
  rw [List.length_filterMap_eq_countP]
  apply List.countP_eq_length.mpr
  intro note hnote
  exact (List.mem_filter.mp hnote).2

/-- What a move reports of the failure of a destroy is added to what was reported before. -/
theorem Move.Accounts.balance {move : Move κ ω ε} (accounts : move.Accounts log)
    {action : Action κ ω} (acts : move.action? log = some action) {rest before after : List ε}
    (before_eq : before = action.share (move.known?.bind Result.cause?) ++ rest)
    (after_eq : after = action.share (move.result?.bind Result.cause?) ++ rest) :
    (move.fault?.toList ++ (move.before.warnings.filterMap Note.fault? ++ before)).Perm
      (move.after.warnings.filterMap Note.fault? ++ after) := by
  cases hanswered : move.fault? with
  | none =>
    obtain ⟨hwarnings, hsame⟩ := accounts.faultless hanswered
    have hshare : action.share (move.result?.bind Result.cause?) =
        action.share (move.known?.bind Result.cause?) := by
      cases hreturn : action.isReturn with
      | true => rw [hsame action acts hreturn]
      | false => simp [Action.share, hreturn]
    rw [hwarnings, before_eq, after_eq, hshare]
    exact List.Perm.refl _
  | some error =>
    obtain ⟨key, object, hfault⟩ : ∃ key object,
        move.answered? = some (.destroy key object, .failed error) := by
      unfold Move.fault? at hanswered
      split at hanswered
      · next key object _ hfault =>
        cases hanswered
        exact ⟨key, object, hfault⟩
      · cases hanswered
    cases accounts.faulty key object error hfault with
    | @noted note hnote hwarns huntold =>
      have hnoted : note.fault? = some error := by rcases hnote with rfl | rfl <;> rfl
      rw [hwarns, before_eq, after_eq, huntold, List.filterMap_cons_some hnoted]
      exact List.Perm.refl _
    | muted hacts hwarns huntold =>
      cases acts.symm.trans hacts
      rw [hwarns, before_eq, after_eq]
      exact List.Perm.refl _
    | told hacts hreturns hwarns hunknown htells =>
      cases acts.symm.trans hacts
      have hshare : action.share (some error) = [error] := by simp [Action.share, hreturns]
      rw [hwarns, before_eq, after_eq, hunknown, htells]
      show List.Perm _ (_ ++ (action.share (some error) ++ rest))
      rw [hshare]
      simpa [Action.share] using List.perm_middle.symm

/-- Failures and reports that match go on to match. -/
theorem perm_ledger {faults noted told due faults' noted' told' due' : List ε}
    (before : faults.Perm (noted ++ (told ++ due)))
    (adds : (faults' ++ (noted ++ due)).Perm (noted' ++ (told' ++ due'))) :
    (faults' ++ faults).Perm (noted' ++ ((told' ++ told) ++ due')) := by
  have hbefore := Multiset.coe_eq_coe.mpr before
  have hadds := Multiset.coe_eq_coe.mpr adds
  apply Multiset.coe_eq_coe.mp
  simp only [← Multiset.coe_add] at hbefore hadds ⊢
  calc (faults' + faults : Multiset ε)
      = faults' + (noted + due) + told := by rw [hbefore]; abel
    _ = noted' + (told' + due') + told := by rw [hadds]
    _ = noted' + (told' + told + due') := by abel

/-- **The failures of destroys are those that are reported**, each as often as it happened, and they
are counted. -/
theorem reports_balance (history : History config log session) (calm : Calm log) :
    (faults log).Perm (session.warnings.filterMap Note.fault? ++ (told log ++ due log session)) ∧
    session.pool.tally.get .destroyFailures = (faults log).length := by
  induction history with
  | create => exact ⟨List.Perm.refl _, rfl⟩
  | @step log session next event reply past hstep ih =>
    have hcalm : Calm log := fun move hmove => calm move (List.mem_cons_of_mem _ hmove)
    have hfits := fits_of_history past hcalm
    obtain ⟨hbefore, hcount⟩ := ih hcalm
    obtain ⟨haccounts, -⟩ := accounts_of_step (reachable_inOrder past.reachable) hstep
      (calm _ List.mem_cons_self) hfits
    obtain ⟨action, rest, hacts, hdue, hgoes⟩ := due_of_step hstep hfits
    constructor
    · exact perm_ledger hbefore (haccounts.balance hacts hdue hgoes)
    · have hcounts := haccounts.counts
      show next.pool.tally.get .destroyFailures = _
      rw [show next.pool.tally.get .destroyFailures = _ from hcounts, hcount]
      simp [faults, Nat.add_comm]

/-- **Every failure of a destroy is reported once**, by any clients, and also if the factory uses
the pool from inside its calls. It is noted, or it becomes the result of the action that has handed
the resource back; and what has become the result is told. A client is told of no failure that its
action does not hear of. The counter of such failures is the number of the reports, and between
actions none of them is still due. -/
theorem failures_reported_once {move : Move κ ω ε}
    (history : History config (move :: log) session) (calm : Calm (move :: log)) :
    move.Accounts log ∧
    (∀ error, move.reply = some (.result (.failed (.factory error))) → error ∈ move.heard log) ∧
    (faults (move :: log)).Perm (session.warnings.filterMap Note.fault? ++
      (told (move :: log) ++ due (move :: log) session)) ∧
    session.pool.tally.get .destroyFailures = session.warnings.length +
      (told (move :: log)).length + (due (move :: log) session).length ∧
    (session.running = [] → due (move :: log) session = []) := by
  obtain ⟨hbalance, hcount⟩ := reports_balance history calm
  cases history with
  | @step log before next event reply past hstep =>
    have hcalm : Calm log := fun move hmove => calm move (List.mem_cons_of_mem _ hmove)
    have hfits := fits_of_history past hcalm
    obtain ⟨haccounts, -⟩ := accounts_of_step (reachable_inOrder past.reachable) hstep
      (calm _ List.mem_cons_self) hfits
    refine ⟨haccounts, ?_, hbalance, ?_, ?_⟩
    · intro error htold
      obtain rfl : reply = some (.result (.failed (.factory error))) := htold
      exact haccounts.heard hfits rfl
    · have hlength := hbalance.length_eq
      rw [List.length_append, List.length_append, length_warnings] at hlength
      rw [hcount, hlength, Nat.add_assoc]
    · intro hrest
      rw [due, dueOf, hrest, List.zip_nil_right]
      rfl

/-- The events of a short run. The resource 7 is lent in a guard, 5 is added, and the handle is
dropped. Then the guard is invalidated and the destroy of 7 fails, so that the pool closes with that
failure, and on the way the destroy of 5 fails as well. -/
def lastGuard : List (Event Nat Nat String) :=
  [.act (.get 0), .answer (.done 7), .answer (.done 7),
    .act (.call (.prefill 0 1)), .answer (.done 5), .answer (.done 5), .act .dropHandle,
    .act (.invalidate 0), .answer (.failed "stuck"), .answer (.failed "jammed")]

/-- The failure of 7 is told at the very end, and that of 5 has been noted. -/
theorem failures_of_lastGuard : ∃ move log session,
    replay Config.standard lastGuard = some (move :: log, session) ∧
    move.Reports log 0 "jammed" ∧ "stuck" ∈ move.heard log ∧
    told (move :: log) = ["stuck"] ∧ (due log move.before) = ["stuck"] ∧
    session.pool.tally.get .destroyFailures = session.warnings.length + 1 := by
  have hfits : ∀ past ∈ replay Config.standard lastGuard, Calm past.1 ∧ past.2.running = [] ∧
      told past.1 = ["stuck"] ∧ ∃ move ∈ past.1.head?, due past.1.tail move.before = ["stuck"] ∧
        move.answered? = some (.destroy 0 5, .failed "jammed") ∧
        move.reply = some (.result (.failed (.factory "stuck"))) := by
    decide +kernel
  have hplays : (replay Config.standard lastGuard).isSome = true := by
    decide +kernel
  obtain ⟨⟨log, session⟩, hpast⟩ := Option.isSome_iff_exists.mp hplays
  obtain ⟨hcalm, hrest, htold, move, hhead, hdue, hfault, hreply⟩ := hfits _ hpast
  obtain ⟨rest, rfl⟩ := List.head?_eq_some_iff.mp hhead
  obtain ⟨haccounts, hheard, -, hcount, hnone⟩ :=
    failures_reported_once (history_of_replay hpast) hcalm
  rw [htold, hnone hrest] at hcount
  exact ⟨move, rest, session, hpast, haccounts.faulty 0 5 "jammed" hfault, hheard "stuck" hreply,
    htold, hdue, hcount⟩

end histories

end Session

end ResourcePool
