import ResourcePool.Proofs.Session.Closing
import ResourcePool.Proofs.Session.Turns

/-!
# Attempts

An attempt is an action from its start to its reply. It may take the factory many answers, and the
factory may use the pool before each of them.

* `Stage.waited?`, `waited_resume` — no operation ends because somebody has waited too long.
* `Session.Attempts` — an action comes to its reply, with anything going on on top of it.
* `Attempts.untimed` — no attempt is told that it has waited too long.
* `Attempts.refuses` — an attempt to borrow that is told that its key is at capacity is over at once
  and leaves no trace but one more refusal.
-/

set_option linter.unusedSectionVars false

namespace ResourcePool

variable {κ ω ε : Type} [DecidableEq κ]

/-! ## Operations do not wait -/

/-- How long somebody has waited in vain, if that is the result. -/
def Result.waited? : Result ω ε → Option Duration
  | .failed (.timedOut patience) => some patience
  | _ => none

/-- How long somebody has waited in vain, if an operation in progress is known to end with that. -/
def Stage.waited? (stage : Stage κ ω ε) : Option Duration := stage.outcome?.bind Result.waited?

/-- How long somebody has waited in vain, if that is or will be the result. -/
def Progress.waited? (progress : Progress κ ω ε) : Option Duration :=
  progress.outcome?.bind Result.waited?

namespace Pool

section waited

variable (pool : Pool κ ω ε)

/-- A borrow that turns to a fresh candidate does not time out. -/
theorem waited_tryFresh (checkout : Checkout κ) (attempt : Nat) :
    (pool.tryFresh checkout attempt).2.waited? = none := by
  unfold tryFresh
  split <;> rfl

/-- Neither does one that takes an idle candidate. -/
theorem waited_tryIdle (checkout : Checkout κ) : (pool.tryIdle checkout).2.waited? = none := by
  unfold tryIdle
  split
  · rfl
  · exact pool.waited_tryFresh checkout 1

/-- Nor does one whose candidate has been activated. -/
theorem waited_afterActivation (checkout : Checkout κ) (origin : Origin) (object : ω) :
    (pool.afterActivation checkout origin object).2.waited? = none := by
  unfold afterActivation
  split <;> rfl

/-- Settling a loan does not time out. -/
theorem waited_settle (key : κ) (slot : SlotId) (object : ω) :
    (pool.settle key slot object).2.waited? = none := by
  unfold settle
  split <;> rfl

/-- An addition does not. -/
theorem waited_addMore (key : κ) (left : Nat) : (pool.addMore key left).2.waited? = none := by
  cases left with
  | zero => rfl
  | succ left =>
    simp only [addMore]
    split <;> rfl

/-- Keeping a fresh resource does not. -/
theorem waited_park (key : κ) (left : Nat) (object : ω) :
    (pool.park key left object).2.waited? = none := by
  unfold park
  split
  · exact waited_addMore _ key left
  · rfl
  · rfl

/-- What is known of the result before a sweep is known after it. -/
theorem waited_sweep (objects : List (κ × ω)) (result : Result ω ε) :
    (pool.sweep objects result).2.waited? = result.waited? := by
  cases objects <;> rfl

/-- Clearing ends with the result that it was given. -/
theorem waited_clear (result : Result ω ε) : (pool.clear result).2.waited? = result.waited? := by
  obtain ⟨notes, heq⟩ := clear_eq pool result
  rw [heq]
  exact waited_sweep _ _ result

/-- So does closing. -/
theorem waited_close (result : Result ω ε) : (pool.close result).2.waited? = result.waited? := by
  unfold close
  split
  · rfl
  · exact waited_clear _ result

/-- A return does not time out. -/
theorem waited_giveBack (key : κ) (object : ω) : (pool.giveBack key object).2.waited? = none := by
  unfold giveBack
  split
  · rfl
  · split
    · rfl
    split
    · rfl
    split <;> rfl

/-- A borrow does not, as long as nobody waits for it. -/
theorem waited_borrow (key : κ) : (pool.borrow key).2.waited? = none := by
  unfold borrow
  split
  · rfl
  split
  · rfl
  · exact waited_tryIdle _ _

/-- No operation times out when it starts. -/
theorem waited_start (operation : Operation κ ω) :
    (pool.start operation).2.waited? = none := by
  cases operation with
  | borrow key => exact pool.waited_borrow key
  | giveBack key object => exact pool.waited_giveBack key object
  | invalidate key object => rfl
  | prefill key count => exact pool.waited_addMore key count
  | clearKey key =>
    obtain ⟨notes, heq⟩ := clearKey_eq pool key
    show (pool.clearKey key).2.waited? = none
    rw [heq]
    exact waited_sweep _ _ .done
  | clear => exact pool.waited_clear .done
  | close => exact pool.waited_close .done

/-- None does when it goes on after a destroy. -/
theorem waited_proceed (key : κ) {sequel : Sequel κ ω ε}
    (untimed : sequel.outcome?.bind Result.waited? = none) :
    (pool.proceed key sequel).2.waited? = none := by
  cases sequel with
  | nextCandidate checkout origin =>
    cases origin with
    | idle => exact pool.waited_tryIdle checkout
    | fresh attempt => exact pool.waited_tryFresh checkout _
  | unwind checkout reason => rfl
  | conclude result => exact untimed
  | sweep rest result => exact (pool.waited_sweep rest result).trans untimed
  | addMore left => exact pool.waited_addMore key left

/-- Nor when the destroy has failed. -/
theorem waited_afterDestroyFailure (key : κ) (error : ε) {aftermath : Aftermath κ ω ε} {object : ω}
    (untimed : (Stage.destroying key object aftermath).waited? = none) :
    (pool.afterDestroyFailure key error aftermath).2.waited? = none := by
  cases aftermath with
  | surface => rfl
  | surfaceIfOpen =>
    simp only [afterDestroyFailure]
    split <;> rfl
  | quietly sequel => exact waited_proceed _ key untimed

/-- **No operation ends because somebody has waited too long**, whatever the answers it gets. -/
theorem waited_resume {stage : Stage κ ω ε} (untimed : stage.waited? = none)
    (answer : Answer ω ε) : (pool.resume stage answer).2.waited? = none := by
  cases stage with
  | creating checkout attempt => cases answer <;> rfl
  | activating checkout origin object =>
    cases answer with
    | done object => exact pool.waited_afterActivation checkout origin object
    | refused object => exact pool.waited_afterActivation checkout origin object
    | failed error => cases origin <;> rfl
    | panicked reason => rfl
  | validating checkout origin object =>
    cases answer with
    | done _ => rfl
    | refused _ => cases origin <;> rfl
    | failed error => cases origin <;> rfl
    | panicked reason => rfl
  | inspecting key slot object => cases answer <;> rfl
  | passivating key slot object =>
    cases answer with
    | done object => exact pool.waited_settle key slot object
    | refused object => exact pool.waited_settle key slot object
    | failed error => rfl
    | panicked reason => rfl
  | making key left => cases answer <;> rfl
  | parking key left object =>
    cases answer with
    | done object => exact pool.waited_park key left object
    | refused object => exact pool.waited_park key left object
    | failed error => rfl
    | panicked reason => rfl
  | destroying key object aftermath =>
    cases answer with
    | failed error => exact waited_afterDestroyFailure _ key error untimed
    | panicked reason =>
      cases aftermath with
      | quietly sequel => cases sequel <;> rfl
      | _ => rfl
    | _ =>
      cases aftermath with
      | quietly sequel => exact pool.waited_proceed key untimed
      | _ => rfl

end waited

end Pool

/-- How long a client is told that it has waited in vain. -/
def Reply.waited? : Reply ω ε → Option Duration
  | .result told => told.waited?
  | .guarded .. => none

namespace Session

/-- No operation in progress is about to end because somebody has waited too long. -/
def Untimed (session : Session κ ω ε) : Prop := ∀ stage ∈ session.stages, stage.waited? = none

section untimed

variable {config : Config} {session base next : Session κ ω ε} {purpose : Purpose κ}
  {event : Event κ ω ε} {turn : Pool.Turn κ ω ε} {reply : Option (Reply ω ε)}

/-- The first half of a step. -/
theorem Untimed.opens (untimed : session.Untimed) (opens : session.Opens event base purpose turn) :
    base.Untimed ∧ turn.2.waited? = none := by
  cases opens with
  | start starts =>
    refine ⟨?_, Pool.waited_start _ _⟩
    unfold Untimed
    rw [stages_prepare]
    exact untimed
  | aside other =>
    refine ⟨?_, rfl⟩
    unfold Untimed
    rw [stages_prepare]
    exact untimed
  | @resume answer activity rest running_eq =>
    have hstages : session.stages = activity.stage :: rest.map fun activity => activity.stage := by
      simp [stages, running_eq]
    unfold Untimed at untimed
    rw [hstages] at untimed
    refine ⟨fun stage hstage => untimed stage (List.mem_cons_of_mem _ hstage), ?_⟩
    exact Pool.waited_resume _ (untimed _ List.mem_cons_self) answer

/-- Handing a reply over does not time out. -/
theorem waited_conclusion (purpose : Purpose κ) (pool : Pool κ ω ε) {result : Result ω ε}
    (untimed : result.waited? = none) : (conclusion purpose pool result).2.waited? = none := by
  rcases conclusion_cases purpose pool result with hsame | ⟨key, error, -, -, hnoted⟩
  · rw [hsame]
    exact untimed
  · rw [hnoted]
    rfl

/-- The pool closing itself, with nothing else left in the session. -/
theorem Untimed.closing (running : session.running = []) (untimed : turn.2.waited? = none) :
    (session.closing turn).1.Untimed ∧
      (session.closing turn).2.bind Reply.waited? = none := by
  have hstages := session.stages_closing turn running
  obtain ⟨pool, progress⟩ := turn
  cases progress with
  | waiting stage =>
    refine ⟨?_, rfl⟩
    intro other hother
    rw [hstages] at hother
    cases List.mem_singleton.mp hother
    exact untimed
  | finished result =>
    refine ⟨?_, untimed⟩
    intro other hother
    rw [hstages] at hother
    cases hother

/-- The second half of a step. -/
theorem Untimed.ends (untimed : base.Untimed) (turn_untimed : turn.2.waited? = none)
    {outcome : Session κ ω ε × Option (Reply ω ε)} (ends : base.Ends purpose turn outcome) :
    outcome.1.Untimed ∧ outcome.2.bind Reply.waited? = none := by
  cases ends with
  | @waits pool stage =>
    refine ⟨?_, rfl⟩
    intro other hother
    rcases List.mem_cons.mp hother with rfl | hrest
    · exact turn_untimed
    · exact untimed other hrest
  | guarded => exact ⟨untimed, rfl⟩
  | told => exact ⟨untimed, waited_conclusion purpose _ turn_untimed⟩
  | @closes pool result handles guards running =>
    refine Untimed.closing running ?_
    rw [Pool.waited_close]
    exact waited_conclusion purpose pool turn_untimed

/-- No move of a session makes an operation time out, and none is answered so. -/
theorem Untimed.step (untimed : session.Untimed) (h : session.step? event = some (next, reply)) :
    next.Untimed ∧ reply.bind Reply.waited? = none := by
  obtain ⟨base, purpose, turn, hopens, heq⟩ := opens_of_step? h
  obtain ⟨hbase, hturn⟩ := untimed.opens hopens
  have hends := base.ends_advance purpose turn
  rw [← heq] at hends
  exact hbase.ends hturn hends

/-- In no session that can be reached an operation is about to time out. -/
theorem untimed_of_reachable (reachable : Reachable config session) : session.Untimed := by
  induction reachable with
  | create => exact fun _ h => nomatch h
  | step _ hstep ih => exact (ih.step hstep).1

end untimed

/-! ## Attempts -/

/-- Events during which more operations stay in progress than a given number. -/
def Underway (depth : Nat) : Session κ ω ε → Session κ ω ε → Prop :=
  Relation.ReflTransGen fun session next => session.Steps next ∧ depth < next.running.length

/-- **An action comes to its reply**: at once, or after it has stayed in progress on top of the
operations that were in progress at its start. Other operations may start and end on top of it in
the meantime. -/
inductive Attempts (session : Session κ ω ε) (action : Action κ ω) :
    Reply ω ε → Session κ ω ε → Prop where
  | atOnce {reply : Reply ω ε} {after : Session κ ω ε}
      (acts : session.act? action = some (after, some reply)) :
      Attempts session action reply after
  | later {begun last after : Session κ ω ε} {answer : Answer ω ε} {reply : Reply ω ε}
      (acts : session.act? action = some (begun, none))
      (underway : Underway session.running.length begun last)
      (ends : last.answer? answer = some (after, some reply))
      (length_eq : after.running.length = session.running.length) :
      Attempts session action reply after

section attempts

variable {config : Config} {session after : Session κ ω ε} {action : Action κ ω}
  {reply : Reply ω ε}

/-- An action in progress leads from its beginning to where it is. -/
theorem Underway.leads {depth : Nat} {begun last : Session κ ω ε}
    (underway : Underway depth begun last) : begun.Leads last :=
  Relation.ReflTransGen.mono (fun _ _ => And.left) _ _ underway

/-- The last step of an attempt. -/
theorem Attempts.last_step (attempts : session.Attempts action reply after) :
    ∃ last event, session.Leads last ∧ last.step? event = some (after, some reply) := by
  cases attempts with
  | atOnce acts => exact ⟨session, .act action, .refl, acts⟩
  | @later begun last _ answer _ acts underway ends length_eq =>
    have hbegins : session.Steps begun := ⟨.act action, none, acts⟩
    exact ⟨last, .answer answer, .head hbegins underway.leads, ends⟩

/-- An action leads to the session that its reply comes with. -/
theorem Attempts.leads (attempts : session.Attempts action reply after) : session.Leads after := by
  obtain ⟨last, event, hleads, hstep⟩ := attempts.last_step
  exact hleads.tail ⟨event, some reply, hstep⟩

/-- **No attempt is told that it has waited too long.** -/
theorem Attempts.untimed (attempts : session.Attempts action reply after)
    (reachable : Reachable config session) : reply.waited? = none := by
  obtain ⟨last, event, hleads, hstep⟩ := attempts.last_step
  exact ((untimed_of_reachable (reachable.leads hleads)).step hstep).2

/-- The reply of an attempt that found its key at capacity. -/
abbrev refusal : Reply ω ε := .result (.failed .atCapacity)

/-- **An action is refused, and that is all**: the reply comes at once, without a call of the
factory, nothing is lent, taken back, reserved or kept, and of all counters only that of refusals
goes up, by one. -/
structure Refuses (session : Session κ ω ε) (action : Action κ ω) (after : Session κ ω ε) :
    Prop where
  atOnce : session.act? action = some (after, some refusal)
  running_eq : after.running = session.running
  sameCounts : SameCounts session.pool after.pool
  tally_eq : after.pool.tally = session.pool.tally.bump .refusals

/-- A borrow that is told at its start that its key is at capacity. -/
theorem refuses_of_act? (reachable : Reachable config session) {key : κ}
    (asks : action = .call (.borrow key) ∨ action = .get key)
    (acts : session.act? action = some (after, some refusal)) : session.Refuses action after := by
  have hinOrder := reachable_inOrder reachable
  have hhandles : session.handles ≠ 0 := by
    intro hnone
    rcases asks with rfl | rfl <;> simp [act?, hnone] at acts
  obtain ⟨purpose, hpurpose, hact⟩ := act?_borrow hhandles asks
  have hsame := acts.symm.trans hact
  -- a borrow that is not refused by the pool is not refused at all
  have hunrefused : ∀ own, (session.pool.borrow key).2.Continues own → session.Refuses action after
    := by
    intro own hcontinues
    have hreply := (InOrder.advance session purpose
      ((Pool.steady_borrow session.pool hinOrder.orderly.sound key).config_eq.trans
        hinOrder.config_eq)
      (hinOrder.orderly.start (.borrow key)) hinOrder.admitted hcontinues).2
    rw [← Option.some.inj hsame] at hreply
    exact absurd rfl hreply
  cases hclosed : session.pool.isClosed with
  | true =>
    apply hunrefused none
    rw [session.pool.borrow_of_closed hclosed key]
    exact Pool.continues_finish session.pool none (by simp)
  | false =>
    rcases session.pool.borrow_cases hinOrder.orderly.sound key hclosed with
      ⟨-, store, hbecomes, heq⟩ | ⟨-, slot, hcontinues⟩
    · rw [heq, advance_refused hhandles hpurpose] at hsame
      cases hsame
      exact ⟨acts, rfl, sameCounts_of_becomes hbecomes, rfl⟩
    · exact hunrefused _ hcontinues

/-- **An attempt to borrow that is refused leaves no trace** but one more refusal. -/
theorem Attempts.refuses (attempts : session.Attempts action refusal after)
    (reachable : Reachable config session) {key : κ}
    (asks : action = .call (.borrow key) ∨ action = .get key) : session.Refuses action after := by
  cases attempts with
  | atOnce acts => exact refuses_of_act? reachable asks acts
  | @later begun last _ answer _ acts underway ends length_eq =>
    -- after its start an operation is not refused any more
    have hbegun : session.Steps begun := ⟨.act action, none, acts⟩
    have hlast : Reachable config last := reachable.leads (.head hbegun underway.leads)
    exact absurd rfl ((reachable_inOrder hlast).answer ends).2

end attempts

end Session

end ResourcePool
