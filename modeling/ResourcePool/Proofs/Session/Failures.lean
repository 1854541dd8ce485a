import ResourcePool.Proofs.Pool.Deeds
import ResourcePool.Proofs.Pool.Routes
import ResourcePool.Proofs.Session.Turns

/-!
# Failures and what becomes of them

Where the failure of a call goes to, turn by turn: into a note when the answer is heard, into a note
at the end of the operation, into its result, or nowhere.

* `Action.hears` — the calls of whose failures the caller hears.
* `Pool.Turn.Quiet` — turns themselves report no failure of a destroy.
* `Belongs` — the operation in progress of an action, with the calls it comes through.
* `reports_of_ends` — what is noted and what is known of the result at the end of a step.
* `Belongs.faulty`, `Belongs.faultless`, `Belongs.cause_heard` — what an operation makes of an
  answer.
-/

set_option linter.unusedSectionVars false

namespace ResourcePool

variable {κ ω ε : Type}

/-! ## Reports -/

/-- The failure of a destroy that a note reports. -/
def Note.fault? : Note κ ε → Option ε
  | destroyFailed _ error | destroyFailedClosed _ error => some error
  | returnFailed _ error => error.factoryError?
  | _ => none

/-- A note of a failed destroy is a report. -/
theorem Note.isReport_of_fault {note : Note κ ε} (reports : note.fault?.isSome = true) :
    note.isReport = true := by
  cases note <;> first | rfl | cases reports

namespace Action

/-- Whether an action hands a resource back and is told what becomes of it. -/
def isReturn : Action κ ω → Bool
  | call (.giveBack ..) | call (.invalidate ..) | release _ | invalidate _ => true
  | _ => false

/-- What a client who has handed a resource back is told of a failure. -/
def share (action : Action κ ω) (cause : Option ε) : List ε :=
  if action.isReturn then cause.toList else []

/-- Without a failure nobody is told. -/
@[simp] theorem share_none (action : Action κ ω) : action.share (none : Option ε) = [] := by
  simp [share]

/-- What a client who has handed a resource back is told of a failure by a reply. -/
def toldBy (action : Action κ ω) : Option (Reply ω ε) → List ε
  | some (.result result) => action.share result.cause?
  | _ => []

/-- Whether the failure of a call is told to the client whose action it belongs to. -/
def hears (action : Action κ ω) : Request κ ω → Bool
  | .create _ => match action with
    | call (.borrow _) | get _ | call (.prefill ..) => true
    | _ => false
  | .passivate .. => match action with
    | call (.prefill ..) => true
    | _ => false
  | .destroy .. => action.isReturn
  | .activate .. | .validate .. => false

/-- The operation that an action runs, and what becomes of its result. -/
inductive Runs : Action κ ω → Operation κ ω → Purpose κ → Prop where
  | call (operation : Operation κ ω) : Runs (.call operation) operation .plain
  | get (key : κ) : Runs (.get key) (.borrow key) (.guarding key)
  | release (id : GuardId) (key : κ) (object : ω) : Runs (.release id) (.giveBack key object) .plain
  | invalidate (id : GuardId) (key : κ) (object : ω) :
      Runs (.invalidate id) (.invalidate key object) .plain
  | drop (id : GuardId) (key : κ) (object : ω) :
      Runs (.dropGuard id) (.giveBack key object) (.dropping key)

end Action

/-- The note that is made at the end of an operation whose result is not told. -/
def Purpose.muted? : Purpose κ → Progress κ ω ε → Option (Note κ ε)
  | dropping key, .finished (.failed (.factory error)) => some (.returnFailed key (.factory error))
  | _, _ => none

variable [DecidableEq κ]

/-! ## Turns -/

namespace Pool

/-- The notes that report failures of destroys, the latest first. -/
def warnings (pool : Pool κ ω ε) : List (Note κ ε) :=
  pool.notes.filter fun note => note.fault?.isSome

section quiet

variable {pool : Pool κ ω ε} {turn : Turn κ ω ε}

/-- A turn that reports no failure of a destroy and counts none. -/
structure Turn.Quiet (pool : Pool κ ω ε) (turn : Turn κ ω ε) : Prop where
  warnings_eq : turn.1.warnings = pool.warnings
  failures_eq : turn.1.tally.get .destroyFailures = pool.tally.get .destroyFailures

/-- A turn that does a deed reports no failure of a destroy. -/
theorem Turn.Does.quiet {hand : Hand κ ω} {deed : Deed κ ω} (does : Turn.Does pool hand turn deed) :
    Turn.Quiet pool turn := by
  refine ⟨?_, does.get_other (by simp)⟩
  -- these notes are among those that a turn leaves as they are
  have hamong : ∀ notes : List (Note κ ε), (notes.filter fun note => note.fault?.isSome) =
      (notes.filter Note.isReport).filter fun note => note.fault?.isSome := by
    intro notes
    rw [List.filter_filter]
    apply List.filter_congr
    intro note _
    cases hfault : note.fault?.isSome with
    | true => simp [Note.isReport_of_fault hfault]
    | false => rfl
  unfold warnings
  rw [hamong, hamong pool.notes, does.reports_eq]

/-- Neither does closing. -/
theorem quiet_close (sound : pool.store.Sound) (result : Result ω ε) :
    Turn.Quiet pool (pool.close result) := by
  cases hclosed : pool.isClosed with
  | true =>
    rw [pool.close_of_closed hclosed]
    exact ⟨rfl, rfl⟩
  | false =>
    obtain ⟨hwarnings, hfailures⟩ := (pool.does_close sound .free hclosed result).quiet
    exact ⟨hwarnings, hfailures⟩

/-- Nor does the start of any operation. -/
theorem quiet_start (sound : pool.store.Sound) (operation : Operation κ ω) :
    Turn.Quiet pool (pool.start operation) := by
  by_cases hclose : operation = .close
  · subst hclose
    exact quiet_close sound .done
  · obtain ⟨deed, hdoes⟩ := pool.does_start sound hclose
    exact hdoes.quiet

end quiet

end Pool

namespace Session

/-! ## Operations of actions -/

/-- **An operation in progress belongs to its action**: it is the operation that the action runs, or
it is over and the pool closes. -/
def Belongs (action : Action κ ω) (activity : Activity κ ω ε) : Prop :=
  (∃ operation, action.Runs operation activity.purpose ∧ operation.Visits activity.stage) ∨
    activity.purpose = .plain ∧ ∃ result, activity.stage.Sweeps result

section belonging

variable {session base : Session κ ω ε} {action : Action κ ω} {operation : Operation κ ω}

/-- The operation that an action starts runs for that action. -/
theorem runs_of_operation? (starts : session.operation? action = some operation) :
    action.Runs operation (session.purposeOf action) := by
  cases action with
  | call operation =>
    obtain ⟨-, hoperation⟩ := Option.ite_none_left_eq_some.mp starts
    cases hoperation
    exact .call _
  | get key =>
    obtain ⟨-, hoperation⟩ := Option.ite_none_left_eq_some.mp starts
    cases hoperation
    exact .get key
  | release id =>
    obtain ⟨guard, -, rfl⟩ := Option.map_eq_some_iff.mp starts
    exact .release id guard.key guard.object
  | invalidate id =>
    obtain ⟨guard, -, rfl⟩ := Option.map_eq_some_iff.mp starts
    exact .invalidate id guard.key guard.object
  | dropGuard id =>
    obtain ⟨guard, hguard, rfl⟩ := Option.map_eq_some_iff.mp starts
    have hpurpose : session.purposeOf (.dropGuard id) = .dropping guard.key := by
      simp [purposeOf, hguard]
    rw [hpurpose]
    exact .drop id guard.key guard.object
  | _ => cases starts

/-- What is muted is the failure of the destroy of a resource that a guard has given back. -/
theorem Belongs.muted {activity : Activity κ ω ε} (belongs : Belongs action activity)
    {pool : Pool κ ω ε} {answer : Answer ω ε} (calm : ∀ reason, answer ≠ .panicked reason)
    {note : Note κ ε}
    (muted : activity.purpose.muted? (pool.resume activity.stage answer).2 = some note) :
    ∃ id key object error, action = .dropGuard id ∧ activity.purpose = .dropping key ∧
      activity.stage = .destroying key object .surface ∧ answer = .failed error ∧
      note = .returnFailed key (.factory error) := by
  obtain ⟨stage, purpose⟩ := activity
  obtain ⟨key, error, hpurpose, hover, rfl⟩ : ∃ key error, purpose = .dropping key ∧
      (pool.resume stage answer).2 = .finished (.failed (.factory error)) ∧
      note = .returnFailed key (.factory error) := by
    unfold Purpose.muted? at muted
    split at muted
    · next key error hpurpose hover =>
      exact ⟨key, error, hpurpose, hover, (Option.some.inj muted).symm⟩
    · cases muted
  subst hpurpose
  rcases belongs with ⟨operation, hruns, hvisits⟩ | ⟨hplain, -⟩
  · cases hruns with
    | drop id key object =>
      have hcause := (pool.pursues_resume hvisits calm).cause_eq
      rw [hover] at hcause
      cases hvisits with
      | inspecting => cases hcause
      | passivating => cases hcause
      | scrapping =>
        cases answer <;> cases hcause
        exact ⟨id, key, object, _, rfl, rfl, rfl, rfl, rfl⟩
      | rejecting _ _ resource causeless =>
        have hnone : some error = (none : Option ε) := hcause.trans causeless
        cases hnone
      | sweeping clears => cases clears
  · cases hplain

end belonging

/-! ## Results -/

/-- The result of the innermost operation in progress, if it is already known. -/
def known? (session : Session κ ω ε) : Option (Result ω ε) :=
  session.running.head?.bind fun activity => activity.stage.outcome?

/-- What is known of the result of an action after an event: it has been told, or it is known while
the operation still waits. -/
def resultOf (outcome : Session κ ω ε × Option (Reply ω ε)) : Option (Result ω ε) :=
  match outcome.2 with
  | some (.result result) => some result
  | some (.guarded ..) => none
  | none => outcome.1.known?

/-- The notes that report failures of destroys, the latest first. -/
def warnings (session : Session κ ω ε) : List (Note κ ε) := session.pool.warnings

/-! ## Ends of operations -/

section ends

variable {base : Session κ ω ε} {purpose : Purpose κ} {turn : Pool.Turn κ ω ε}
  {outcome : Session κ ω ε × Option (Reply ω ε)}

/-- Nothing is muted without a failure. -/
theorem muted?_of_causeless {purpose : Purpose κ} {progress : Progress κ ω ε}
    (causeless : progress.cause? = none) : purpose.muted? progress = none := by
  unfold Purpose.muted?
  split
  · cases causeless
  · rfl

/-- What a conclusion adds to the notes, and what it leaves of the result. -/
theorem reports_of_conclusion (purpose : Purpose κ) (pool : Pool κ ω ε) (result : Result ω ε) :
    (conclusion purpose pool result).1.warnings =
      (purpose.muted? (.finished result : Progress κ ω ε)).toList ++ pool.warnings ∧
    (conclusion purpose pool result).1.tally = pool.tally ∧
    (conclusion purpose pool result).2.cause? =
      if (purpose.muted? (.finished result : Progress κ ω ε)).isSome then none
      else result.cause? := by
  cases purpose with
  | dropping key =>
    cases result with
    | failed error => cases error <;> exact ⟨rfl, rfl, rfl⟩
    | _ => exact ⟨rfl, rfl, rfl⟩
  | _ => exact ⟨rfl, rfl, rfl⟩

/-- **The end of an operation** notes what is not told, and nothing else. -/
theorem reports_of_ends (ends : base.Ends purpose turn outcome) (sound : turn.1.store.Sound) :
    outcome.1.warnings = (purpose.muted? turn.2).toList ++ turn.1.warnings ∧
    outcome.1.pool.tally.get .destroyFailures = turn.1.tally.get .destroyFailures ∧
    (resultOf outcome).bind Result.cause? =
      if (purpose.muted? turn.2).isSome then none else turn.2.cause? := by
  cases ends with
  | waits => cases purpose <;> exact ⟨rfl, rfl, rfl⟩
  | guarded purpose_eq =>
    subst purpose_eq
    exact ⟨rfl, rfl, rfl⟩
  | @told pool result referenced =>
    obtain ⟨hwarnings, htally, hcause⟩ := reports_of_conclusion purpose pool result
    exact ⟨hwarnings, congrArg (Tally.get · .destroyFailures) htally, hcause⟩
  | @closes pool result handles guards running =>
    obtain ⟨hwarnings, htally, hcause⟩ := reports_of_conclusion purpose pool result
    have hsound : (conclusion purpose pool result).1.store.Sound := by
      rw [store_conclusion]
      exact sound
    have hquiet := Pool.quiet_close hsound (conclusion purpose pool result).2
    have hclosing := (conclusion purpose pool result).1.cause?_close
      (conclusion purpose pool result).2
    rw [hcause] at hclosing
    refine ⟨?_, ?_, ?_⟩
    · unfold warnings
      rw [pool_closing]
      exact hquiet.warnings_eq.trans hwarnings
    · rw [pool_closing]
      exact hquiet.failures_eq.trans (congrArg (Tally.get · .destroyFailures) htally)
    · refine Eq.trans ?_ hclosing
      generalize (conclusion purpose pool result).1.close (conclusion purpose pool result).2 =
        closed
      obtain ⟨last, progress⟩ := closed
      cases progress <;> rfl

/-- What is in progress after a turn has been taken over. -/
theorem running_of_ends (ends : base.Ends purpose turn outcome) :
    (∃ told, outcome.2 = some told ∧ outcome.1.running = base.running) ∨
    ∃ activity, outcome.2 = none ∧ outcome.1.running = activity :: base.running ∧
      (turn.2 = .waiting activity.stage ∧ activity.purpose = purpose ∨
        activity.purpose = .plain ∧ ∃ result, activity.stage.Sweeps result) := by
  cases ends with
  | @waits pool stage => exact .inr ⟨⟨stage, purpose⟩, rfl, rfl, .inl ⟨rfl, rfl⟩⟩
  | guarded purpose_eq => exact .inl ⟨_, rfl, rfl⟩
  | told referenced => exact .inl ⟨_, rfl, rfl⟩
  | @closes pool result handles guards running =>
    have hsweeps := (conclusion purpose pool result).1.close_sweeps
      (conclusion purpose pool result).2
    generalize (conclusion purpose pool result).1.close (conclusion purpose pool result).2 =
      closed at hsweeps
    obtain ⟨last, progress⟩ := closed
    rcases hsweeps with rfl | ⟨stage, rfl, hsweeps⟩
    · exact .inl ⟨_, rfl, rfl⟩
    · refine .inr ⟨⟨stage, .plain⟩, rfl, ?_, .inr ⟨rfl, _, hsweeps⟩⟩
      show [_] = _ :: base.running
      rw [running]

end ends

/-! ## Answers -/

section answers

variable {action : Action κ ω} {activity : Activity κ ω ε} {pool : Pool κ ω ε} {answer : Answer ω ε}

/-- What an operation in progress makes of an answer: it still belongs to its action, and it ends
with a failure that it has to tell of. -/
theorem Belongs.resume (belongs : Belongs action activity) (pool : Pool κ ω ε)
    (calm : ∀ reason, answer ≠ .panicked reason) :
    (∀ stage, (pool.resume activity.stage answer).2 = .waiting stage →
      Belongs action ⟨stage, activity.purpose⟩) ∧
    (pool.resume activity.stage answer).2.cause? =
      if activity.stage.surfaces pool.isClosed then answer.error? else activity.stage.cause? := by
  rcases belongs with ⟨operation, hruns, hvisits⟩ | ⟨hplain, result, hsweeps⟩
  · have hpursues := pool.pursues_resume hvisits calm
    exact ⟨fun stage hwaits => .inl ⟨operation, hruns, hpursues.visits stage hwaits⟩,
      hpursues.cause_eq⟩
  · have hcause : activity.stage.cause? = result.cause? :=
      congrArg (Option.bind · Result.cause?) hsweeps.outcome?_eq
    have hsurfaces : activity.stage.surfaces pool.isClosed = false := by
      obtain ⟨key, object, rest, heq⟩ := hsweeps
      rw [heq]
      rfl
    rw [hsurfaces, hcause]
    rcases pool.resume_of_sweeps hsweeps calm with hover | ⟨next, hwaits, hnext⟩
    · rw [hover]
      exact ⟨nofun, rfl⟩
    · rw [hwaits]
      refine ⟨?_, congrArg (Option.bind · Result.cause?) hnext.outcome?_eq⟩
      rintro _ ⟨⟩
      exact .inr ⟨hplain, result, hnext⟩

/-- **A failure that is told is one that the action hears of**, now or before. -/
theorem Belongs.cause_heard (belongs : Belongs action activity)
    (calm : ∀ reason, answer ≠ .panicked reason) {error : ε}
    (told : activity.purpose.muted? (pool.resume activity.stage answer).2 = none)
    (cause : (pool.resume activity.stage answer).2.cause? = some error) :
    answer = .failed error ∧ action.hears activity.stage.request = true ∨
      activity.stage.cause? = some error := by
  have hcause := (belongs.resume pool calm).2
  rw [cause] at hcause
  cases hsurfaces : activity.stage.surfaces pool.isClosed with
  | false =>
    rw [hsurfaces] at hcause
    exact .inr hcause.symm
  | true =>
    rw [hsurfaces, if_pos rfl] at hcause
    obtain rfl : answer = .failed error := by cases answer <;> cases hcause; rfl
    refine .inl ⟨rfl, ?_⟩
    obtain ⟨stage, purpose⟩ := activity
    rcases belongs with ⟨operation, hruns, hvisits⟩ | ⟨-, result, key, object, rest, rfl⟩
    · cases hvisits with
      | creating => cases hruns <;> rfl
      | making => cases hruns; rfl
      | parking => cases hruns; rfl
      | scrapping key object =>
        cases hruns with
        | drop id key object => cases told
        | _ => rfl
      | invalidating => cases hruns <;> rfl
      | sweeping clears sweeps =>
        obtain ⟨key, object, rest, rfl⟩ := sweeps
        cases hsurfaces
      | _ => cases hsurfaces
    · cases hsurfaces

/-- The note that reports the failure of a destroy when its answer is heard. -/
def warning? (pool : Pool κ ω ε) (stage : Stage κ ω ε) (answer : Answer ω ε) : Option (Note κ ε) :=
  (stage.remark? pool.isClosed answer).filter fun note => note.fault?.isSome

/-- **A destroy fails**, and that is noted at once, or at the end of the operation if it is the end
of a guard, or it becomes the result of the operation. -/
theorem Belongs.faulty {key : κ} {object : ω} {error : ε} (belongs : Belongs action activity)
    (pool : Pool κ ω ε) (asks : activity.stage.request = .destroy key object)
    (fails : answer = .failed error) :
    let turn := pool.resume activity.stage answer
    (∃ note, (note = .destroyFailed key error ∨ note = .destroyFailedClosed key error) ∧
      warning? pool activity.stage answer = some note ∧ activity.purpose.muted? turn.2 = none ∧
      turn.2.cause? = activity.stage.cause?) ∨
    (∃ id, action = .dropGuard id ∧ warning? pool activity.stage answer = none ∧
      activity.purpose.muted? turn.2 = some (.returnFailed key (.factory error))) ∨
    (action.isReturn = true ∧ warning? pool activity.stage answer = none ∧
      activity.purpose.muted? turn.2 = none ∧ activity.stage.outcome? = none ∧
      turn.2.cause? = some error) := by
  subst fails
  have hcalm : ∀ reason, (.failed error : Answer ω ε) ≠ .panicked reason := nofun
  have hcause := (belongs.resume pool hcalm).2
  obtain ⟨stage, purpose⟩ := activity
  cases stage with
  | destroying place resource aftermath =>
    cases asks
    cases aftermath with
    | quietly sequel =>
      refine .inl ⟨.destroyFailed key error, .inl rfl, rfl, ?_, hcause⟩
      cases hmuted : purpose.muted? (pool.resume (.destroying key object (.quietly sequel))
        (.failed error)).2 with
      | none => rfl
      | some note =>
        obtain ⟨_, _, _, _, -, -, hstage, -⟩ := belongs.muted hcalm hmuted
        cases hstage
    | surface =>
      rcases belongs with ⟨operation, hruns, hvisits⟩ | ⟨-, result, _, _, _, hsweeps⟩
      · cases hvisits with
        | scrapping =>
          cases hruns with
          | drop id => exact .inr (.inl ⟨id, rfl, rfl, rfl⟩)
          | _ => exact .inr (.inr ⟨rfl, rfl, rfl, rfl, rfl⟩)
        | sweeping clears sweeps =>
          obtain ⟨_, _, _, hsweeps⟩ := sweeps
          cases hsweeps
      · cases hsweeps
    | surfaceIfOpen =>
      rcases belongs with ⟨operation, hruns, hvisits⟩ | ⟨-, result, _, _, _, hsweeps⟩
      · cases hvisits with
        | invalidating =>
          have hplain : purpose = .plain := by cases hruns <;> rfl
          subst hplain
          cases hclosed : pool.isClosed with
          | true =>
            simp only [Stage.surfaces, hclosed] at hcause
            refine .inl ⟨.destroyFailedClosed key error, .inr rfl, ?_, rfl, hcause⟩
            simp [warning?, Stage.remark?, hclosed, Note.fault?]
          | false =>
            simp only [Stage.surfaces, hclosed] at hcause
            refine .inr (.inr ⟨?_, ?_, rfl, rfl, hcause⟩)
            · cases hruns <;> rfl
            · simp [warning?, Stage.remark?, hclosed]
        | sweeping clears sweeps =>
          obtain ⟨_, _, _, hsweeps⟩ := sweeps
          cases hsweeps
      · cases hsweeps
  | _ => cases asks

/-- **No destroy fails**, and nothing is noted of one or told to a client that handed a resource
back. -/
theorem Belongs.faultless (belongs : Belongs action activity) (pool : Pool κ ω ε)
    (calm : ∀ reason, answer ≠ .panicked reason)
    (faultless : ∀ key object error, activity.stage.request = .destroy key object →
      answer ≠ .failed error) :
    let turn := pool.resume activity.stage answer
    warning? pool activity.stage answer = none ∧ activity.purpose.muted? turn.2 = none ∧
      (action.isReturn = true → turn.2.cause? = activity.stage.cause?) := by
  have hcause := (belongs.resume pool calm).2
  obtain ⟨stage, purpose⟩ := activity
  refine ⟨?_, ?_, ?_⟩
  · cases stage with
    | destroying key object aftermath =>
      cases answer with
      | failed error => exact absurd rfl (faultless key object error rfl)
      | _ => cases aftermath <;> rfl
    | _ => cases answer <;> rfl
  · cases hmuted : purpose.muted? (pool.resume stage answer).2 with
    | none => rfl
    | some note =>
      obtain ⟨_, key, object, error, -, -, hstage, hanswer, -⟩ := belongs.muted calm hmuted
      exact absurd hanswer (faultless key object error (congrArg Stage.request hstage))
  · intro hreturn
    show (pool.resume stage answer).2.cause? = stage.cause?
    rw [hcause]
    rcases belongs with ⟨operation, hruns, hvisits⟩ | ⟨-, result, key, object, rest, rfl⟩
    · cases hvisits with
      | creating => cases hruns <;> cases hreturn
      | making => cases hruns; cases hreturn
      | parking => cases hruns; cases hreturn
      | scrapping key object =>
        cases answer with
        | failed error => exact absurd rfl (faultless key object error rfl)
        | _ => rfl
      | invalidating key object =>
        cases answer with
        | failed error => exact absurd rfl (faultless key object error rfl)
        | _ => simp [Answer.error?, Stage.cause?, Stage.outcome?]
      | sweeping clears sweeps =>
        obtain ⟨key, object, rest, rfl⟩ := sweeps
        rfl
      | _ => rfl
    · rfl

/-- Hearing an answer adds the warning for it, if there is one. -/
theorem warnings_hear (pool : Pool κ ω ε) (stage : Stage κ ω ε) (answer : Answer ω ε) :
    (pool.hear stage answer).warnings = (warning? pool stage answer).toList ++ pool.warnings := by
  unfold Pool.warnings Pool.hear warning?
  rw [List.filter_append]
  cases stage.remark? pool.isClosed answer with
  | none => rfl
  | some note =>
    simp only [Option.toList_some, Option.filter_some, List.filter_singleton]
    cases note.fault?.isSome <;> rfl

/-- The failure of a destroy is counted when it is heard. -/
theorem failures_hear (pool : Pool κ ω ε) (stage : Stage κ ω ε) (answer : Answer ω ε) :
    (pool.hear stage answer).tally.get .destroyFailures = pool.tally.get .destroyFailures +
      match stage.request, answer with
      | .destroy .., .failed _ => 1
      | _, _ => 0 := by
  rw [Pool.get_hear]
  cases stage <;> cases answer <;> rfl

end answers

end Session

end ResourcePool
